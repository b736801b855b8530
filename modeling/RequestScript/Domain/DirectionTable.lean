import RequestScript.Text.Digits

namespace RequestScript.Domain

/-- Ranges of code points with the number of their class of direction, where that is not left to right. -/
def directionRows : NumberRows := NumberRows.ofLines [
  "0.8.9 9.d.b e.1b.9 1c.20.b 21.22.8 23.25.7 26.2a.8 2b.2b.5 2c.2c.6 2d.2d.5 2e.2f.6 30.39.4",
  "3a.3a.6 3b.40.8 5b.60.8 7b.7e.8 7f.84.9 85.85.b 86.9f.9 a0.a0.6 a1.a1.8 a2.a5.7 a6.a9.8",
  "ab.ac.8 ad.ad.9 ae.af.8 b0.b1.7 b2.b3.4 b4.b4.8 b6.b8.8 b9.b9.4 bb.bf.8 d7.d7.8 f7.f7.8",
  "2b9.2ba.8 2c2.2cf.8 2d2.2df.8 2e5.2ed.8 2ef.2ff.8 300.36f.a 374.375.8 37e.37e.8 384.385.8",
  "387.387.8 3f6.3f6.8 483.489.a 58a.58a.8 58d.58e.8 58f.58f.7 591.5bd.a 5be.5be.1 5bf.5bf.a",
  "5c0.5c0.1 5c1.5c2.a 5c3.5c3.1 5c4.5c5.a 5c6.5c6.1 5c7.5c7.a 5d0.5ea.1 5ef.5f4.1 600.605.3",
  "606.607.8 608.608.2 609.60a.7 60b.60b.2 60c.60c.6 60d.60d.2 60e.60f.8 610.61a.a 61b.64a.2",
  "64b.65f.a 660.669.3 66a.66a.7 66b.66c.3 66d.66f.2 670.670.a 671.6d5.2 6d6.6dc.a 6dd.6dd.3",
  "6de.6de.8 6df.6e4.a 6e5.6e6.2 6e7.6e8.a 6e9.6e9.8 6ea.6ed.a 6ee.6ef.2 6f0.6f9.4 6fa.70d.2",
  "70f.710.2 711.711.a 712.72f.2 730.74a.a 74d.7a5.2 7a6.7b0.a 7b1.7b1.2 7c0.7ea.1 7eb.7f3.a",
  "7f4.7f5.1 7f6.7f9.8 7fa.7fa.1 7fd.7fd.a 7fe.815.1 816.819.a 81a.81a.1 81b.823.a 824.824.1",
  "825.827.a 828.828.1 829.82d.a 830.83e.1 840.858.1 859.85b.a 85e.85e.1 860.86a.2 870.88e.2",
  "890.891.3 898.89f.a 8a0.8c9.2 8ca.8e1.a 8e2.8e2.3 8e3.902.a 93a.93a.a 93c.93c.a 941.948.a",
  "94d.94d.a 951.957.a 962.963.a 981.981.a 9bc.9bc.a 9c1.9c4.a 9cd.9cd.a 9e2.9e3.a 9f2.9f3.7",
  "9fb.9fb.7 9fe.9fe.a a01.a02.a a3c.a3c.a a41.a42.a a47.a48.a a4b.a4d.a a51.a51.a a70.a71.a",
  "a75.a75.a a81.a82.a abc.abc.a ac1.ac5.a ac7.ac8.a acd.acd.a ae2.ae3.a af1.af1.7 afa.aff.a",
  "b01.b01.a b3c.b3c.a b3f.b3f.a b41.b44.a b4d.b4d.a b55.b56.a b62.b63.a b82.b82.a bc0.bc0.a",
  "bcd.bcd.a bf3.bf8.8 bf9.bf9.7 bfa.bfa.8 c00.c00.a c04.c04.a c3c.c3c.a c3e.c40.a c46.c48.a",
  "c4a.c4d.a c55.c56.a c62.c63.a c78.c7e.8 c81.c81.a cbc.cbc.a ccc.ccd.a ce2.ce3.a d00.d01.a",
  "d3b.d3c.a d41.d44.a d4d.d4d.a d62.d63.a d81.d81.a dca.dca.a dd2.dd4.a dd6.dd6.a e31.e31.a",
  "e34.e3a.a e3f.e3f.7 e47.e4e.a eb1.eb1.a eb4.ebc.a ec8.ece.a f18.f19.a f35.f35.a f37.f37.a",
  "f39.f39.a f3a.f3d.8 f71.f7e.a f80.f84.a f86.f87.a f8d.f97.a f99.fbc.a fc6.fc6.a 102d.1030.a",
  "1032.1037.a 1039.103a.a 103d.103e.a 1058.1059.a 105e.1060.a 1071.1074.a 1082.1082.a",
  "1085.1086.a 108d.108d.a 109d.109d.a 135d.135f.a 1390.1399.8 1400.1400.8 1680.1680.b",
  "169b.169c.8 1712.1714.a 1732.1733.a 1752.1753.a 1772.1773.a 17b4.17b5.a 17b7.17bd.a",
  "17c6.17c6.a 17c9.17d3.a 17db.17db.7 17dd.17dd.a 17f0.17f9.8 1800.180a.8 180b.180d.a",
  "180e.180e.9 180f.180f.a 1885.1886.a 18a9.18a9.a 1920.1922.a 1927.1928.a 1932.1932.a",
  "1939.193b.a 1940.1940.8 1944.1945.8 19de.19ff.8 1a17.1a18.a 1a1b.1a1b.a 1a56.1a56.a",
  "1a58.1a5e.a 1a60.1a60.a 1a62.1a62.a 1a65.1a6c.a 1a73.1a7c.a 1a7f.1a7f.a 1ab0.1ace.a",
  "1b00.1b03.a 1b34.1b34.a 1b36.1b3a.a 1b3c.1b3c.a 1b42.1b42.a 1b6b.1b73.a 1b80.1b81.a",
  "1ba2.1ba5.a 1ba8.1ba9.a 1bab.1bad.a 1be6.1be6.a 1be8.1be9.a 1bed.1bed.a 1bef.1bf1.a",
  "1c2c.1c33.a 1c36.1c37.a 1cd0.1cd2.a 1cd4.1ce0.a 1ce2.1ce8.a 1ced.1ced.a 1cf4.1cf4.a",
  "1cf8.1cf9.a 1dc0.1dff.a 1fbd.1fbd.8 1fbf.1fc1.8 1fcd.1fcf.8 1fdd.1fdf.8 1fed.1fef.8",
  "1ffd.1ffe.8 2000.200a.b 200b.200d.9 200f.200f.1 2010.2027.8 2028.202e.b 202f.202f.6",
  "2030.2034.7 2035.2043.8 2044.2044.6 2045.205e.8 205f.205f.b 2060.2064.9 2066.2069.b",
  "206a.206f.9 2070.2070.4 2074.2079.4 207a.207b.5 207c.207e.8 2080.2089.4 208a.208b.5",
  "208c.208e.8 20a0.20c0.7 20d0.20f0.a 2100.2101.8 2103.2106.8 2108.2109.8 2114.2114.8",
  "2116.2118.8 211e.2123.8 2125.2125.8 2127.2127.8 2129.2129.8 212e.212e.7 213a.213b.8",
  "2140.2144.8 214a.214d.8 2150.215f.8 2189.218b.8 2190.2211.8 2212.2212.5 2213.2213.7",
  "2214.2335.8 237b.2394.8 2396.2426.8 2440.244a.8 2460.2487.8 2488.249b.4 24ea.26ab.8",
  "26ad.27ff.8 2900.2b73.8 2b76.2b95.8 2b97.2bff.8 2ce5.2cea.8 2cef.2cf1.a 2cf9.2cff.8",
  "2d7f.2d7f.a 2de0.2dff.a 2e00.2e5d.8 2e80.2e99.8 2e9b.2ef3.8 2f00.2fd5.8 2ff0.2ffb.8",
  "3000.3000.b 3001.3004.8 3008.3020.8 302a.302d.a 3030.3030.8 3036.3037.8 303d.303f.8",
  "3099.309a.a 309b.309c.8 30a0.30a0.8 30fb.30fb.8 31c0.31e3.8 321d.321e.8 3250.325f.8",
  "327c.327e.8 32b1.32bf.8 32cc.32cf.8 3377.337a.8 33de.33df.8 33ff.33ff.8 4dc0.4dff.8",
  "a490.a4c6.8 a60d.a60f.8 a66f.a672.a a673.a673.8 a674.a67d.a a67e.a67f.8 a69e.a69f.a",
  "a6f0.a6f1.a a700.a721.8 a788.a788.8 a802.a802.a a806.a806.a a80b.a80b.a a825.a826.a",
  "a828.a82b.8 a82c.a82c.a a838.a839.7 a874.a877.8 a8c4.a8c5.a a8e0.a8f1.a a8ff.a8ff.a",
  "a926.a92d.a a947.a951.a a980.a982.a a9b3.a9b3.a a9b6.a9b9.a a9bc.a9bd.a a9e5.a9e5.a",
  "aa29.aa2e.a aa31.aa32.a aa35.aa36.a aa43.aa43.a aa4c.aa4c.a aa7c.aa7c.a aab0.aab0.a",
  "aab2.aab4.a aab7.aab8.a aabe.aabf.a aac1.aac1.a aaec.aaed.a aaf6.aaf6.a ab6a.ab6b.8",
  "abe5.abe5.a abe8.abe8.a abed.abed.a fb1d.fb1d.1 fb1e.fb1e.a fb1f.fb28.1 fb29.fb29.5",
  "fb2a.fb36.1 fb38.fb3c.1 fb3e.fb3e.1 fb40.fb41.1 fb43.fb44.1 fb46.fb4f.1 fb50.fbc2.2",
  "fbd3.fd3d.2 fd3e.fd4f.8 fd50.fd8f.2 fd92.fdc7.2 fdcf.fdcf.8 fdf0.fdfc.2 fdfd.fdff.8",
  "fe00.fe0f.a fe10.fe19.8 fe20.fe2f.a fe30.fe4f.8 fe50.fe50.6 fe51.fe51.8 fe52.fe52.6",
  "fe54.fe54.8 fe55.fe55.6 fe56.fe5e.8 fe5f.fe5f.7 fe60.fe61.8 fe62.fe63.5 fe64.fe66.8",
  "fe68.fe68.8 fe69.fe6a.7 fe6b.fe6b.8 fe70.fe74.2 fe76.fefc.2 feff.feff.9 ff01.ff02.8",
  "ff03.ff05.7 ff06.ff0a.8 ff0b.ff0b.5 ff0c.ff0c.6 ff0d.ff0d.5 ff0e.ff0f.6 ff10.ff19.4",
  "ff1a.ff1a.6 ff1b.ff20.8 ff3b.ff40.8 ff5b.ff65.8 ffe0.ffe1.7 ffe2.ffe4.8 ffe5.ffe6.7",
  "ffe8.ffee.8 fff9.fffd.8 10101.10101.8 10140.1018c.8 10190.1019c.8 101a0.101a0.8 101fd.101fd.a",
  "102e0.102e0.a 102e1.102fb.4 10376.1037a.a 10800.10805.1 10808.10808.1 1080a.10835.1",
  "10837.10838.1 1083c.1083c.1 1083f.10855.1 10857.1089e.1 108a7.108af.1 108e0.108f2.1",
  "108f4.108f5.1 108fb.1091b.1 1091f.1091f.8 10920.10939.1 1093f.1093f.1 10980.109b7.1",
  "109bc.109cf.1 109d2.10a00.1 10a01.10a03.a 10a05.10a06.a 10a0c.10a0f.a 10a10.10a13.1",
  "10a15.10a17.1 10a19.10a35.1 10a38.10a3a.a 10a3f.10a3f.a 10a40.10a48.1 10a50.10a58.1",
  "10a60.10a9f.1 10ac0.10ae4.1 10ae5.10ae6.a 10aeb.10af6.1 10b00.10b35.1 10b39.10b3f.8",
  "10b40.10b55.1 10b58.10b72.1 10b78.10b91.1 10b99.10b9c.1 10ba9.10baf.1 10c00.10c48.1",
  "10c80.10cb2.1 10cc0.10cf2.1 10cfa.10cff.1 10d00.10d23.2 10d24.10d27.a 10d30.10d39.3",
  "10e60.10e7e.3 10e80.10ea9.1 10eab.10eac.a 10ead.10ead.1 10eb0.10eb1.1 10efd.10eff.a",
  "10f00.10f27.1 10f30.10f45.2 10f46.10f50.a 10f51.10f59.2 10f70.10f81.1 10f82.10f85.a",
  "10f86.10f89.1 10fb0.10fcb.1 10fe0.10ff6.1 11001.11001.a 11038.11046.a 11052.11065.8",
  "11070.11070.a 11073.11074.a 1107f.11081.a 110b3.110b6.a 110b9.110ba.a 110c2.110c2.a",
  "11100.11102.a 11127.1112b.a 1112d.11134.a 11173.11173.a 11180.11181.a 111b6.111be.a",
  "111c9.111cc.a 111cf.111cf.a 1122f.11231.a 11234.11234.a 11236.11237.a 1123e.1123e.a",
  "11241.11241.a 112df.112df.a 112e3.112ea.a 11300.11301.a 1133b.1133c.a 11340.11340.a",
  "11366.1136c.a 11370.11374.a 11438.1143f.a 11442.11444.a 11446.11446.a 1145e.1145e.a",
  "114b3.114b8.a 114ba.114ba.a 114bf.114c0.a 114c2.114c3.a 115b2.115b5.a 115bc.115bd.a",
  "115bf.115c0.a 115dc.115dd.a 11633.1163a.a 1163d.1163d.a 1163f.11640.a 11660.1166c.8",
  "116ab.116ab.a 116ad.116ad.a 116b0.116b5.a 116b7.116b7.a 1171d.1171f.a 11722.11725.a",
  "11727.1172b.a 1182f.11837.a 11839.1183a.a 1193b.1193c.a 1193e.1193e.a 11943.11943.a",
  "119d4.119d7.a 119da.119db.a 119e0.119e0.a 11a01.11a06.a 11a09.11a0a.a 11a33.11a38.a",
  "11a3b.11a3e.a 11a47.11a47.a 11a51.11a56.a 11a59.11a5b.a 11a8a.11a96.a 11a98.11a99.a",
  "11c30.11c36.a 11c38.11c3d.a 11c92.11ca7.a 11caa.11cb0.a 11cb2.11cb3.a 11cb5.11cb6.a",
  "11d31.11d36.a 11d3a.11d3a.a 11d3c.11d3d.a 11d3f.11d45.a 11d47.11d47.a 11d90.11d91.a",
  "11d95.11d95.a 11d97.11d97.a 11ef3.11ef4.a 11f00.11f01.a 11f36.11f3a.a 11f40.11f40.a",
  "11f42.11f42.a 11fd5.11fdc.8 11fdd.11fe0.7 11fe1.11ff1.8 13440.13440.a 13447.13455.a",
  "16af0.16af4.a 16b30.16b36.a 16f4f.16f4f.a 16f8f.16f92.a 16fe2.16fe2.8 16fe4.16fe4.a",
  "1bc9d.1bc9e.a 1bca0.1bca3.9 1cf00.1cf2d.a 1cf30.1cf46.a 1d167.1d169.a 1d173.1d17a.9",
  "1d17b.1d182.a 1d185.1d18b.a 1d1aa.1d1ad.a 1d1e9.1d1ea.8 1d200.1d241.8 1d242.1d244.a",
  "1d245.1d245.8 1d300.1d356.8 1d6db.1d6db.8 1d715.1d715.8 1d74f.1d74f.8 1d789.1d789.8",
  "1d7c3.1d7c3.8 1d7ce.1d7ff.4 1da00.1da36.a 1da3b.1da6c.a 1da75.1da75.a 1da84.1da84.a",
  "1da9b.1da9f.a 1daa1.1daaf.a 1e000.1e006.a 1e008.1e018.a 1e01b.1e021.a 1e023.1e024.a",
  "1e026.1e02a.a 1e08f.1e08f.a 1e130.1e136.a 1e2ae.1e2ae.a 1e2ec.1e2ef.a 1e2ff.1e2ff.7",
  "1e4ec.1e4ef.a 1e800.1e8c4.1 1e8c7.1e8cf.1 1e8d0.1e8d6.a 1e900.1e943.1 1e944.1e94a.a",
  "1e94b.1e94b.1 1e950.1e959.1 1e95e.1e95f.1 1ec71.1ecb4.2 1ed01.1ed3d.2 1ee00.1ee03.2",
  "1ee05.1ee1f.2 1ee21.1ee22.2 1ee24.1ee24.2 1ee27.1ee27.2 1ee29.1ee32.2 1ee34.1ee37.2",
  "1ee39.1ee39.2 1ee3b.1ee3b.2 1ee42.1ee42.2 1ee47.1ee47.2 1ee49.1ee49.2 1ee4b.1ee4b.2",
  "1ee4d.1ee4f.2 1ee51.1ee52.2 1ee54.1ee54.2 1ee57.1ee57.2 1ee59.1ee59.2 1ee5b.1ee5b.2",
  "1ee5d.1ee5d.2 1ee5f.1ee5f.2 1ee61.1ee62.2 1ee64.1ee64.2 1ee67.1ee6a.2 1ee6c.1ee72.2",
  "1ee74.1ee77.2 1ee79.1ee7c.2 1ee7e.1ee7e.2 1ee80.1ee89.2 1ee8b.1ee9b.2 1eea1.1eea3.2",
  "1eea5.1eea9.2 1eeab.1eebb.2 1eef0.1eef1.8 1f000.1f02b.8 1f030.1f093.8 1f0a0.1f0ae.8",
  "1f0b1.1f0bf.8 1f0c1.1f0cf.8 1f0d1.1f0f5.8 1f100.1f10a.4 1f10b.1f10f.8 1f12f.1f12f.8",
  "1f16a.1f16f.8 1f1ad.1f1ad.8 1f260.1f265.8 1f300.1f6d7.8 1f6dc.1f6ec.8 1f6f0.1f6fc.8",
  "1f700.1f776.8 1f77b.1f7d9.8 1f7e0.1f7eb.8 1f7f0.1f7f0.8 1f800.1f80b.8 1f810.1f847.8",
  "1f850.1f859.8 1f860.1f887.8 1f890.1f8ad.8 1f8b0.1f8b1.8 1f900.1fa53.8 1fa60.1fa6d.8",
  "1fa70.1fa7c.8 1fa80.1fa88.8 1fa90.1fabd.8 1fabf.1fac5.8 1face.1fadb.8 1fae0.1fae8.8",
  "1faf0.1faf8.8 1fb00.1fb92.8 1fb94.1fbca.8 1fbf0.1fbf9.4 e0001.e0001.9 e0020.e007f.9",
  "e0100.e01ef.a"]

end RequestScript.Domain
