import RequestScript.Claims

namespace RequestScript

/-- How a request proves who sends it. -/
inductive Authorization where
  | basic (user pass : Word)
  | bearer (token : Word)
  | claims (entries : List (String × List Word)) (algorithm secret : String)

/-- Why an authorization has no value. -/
inductive AuthorizationError where
  | expand (error : ExpandError)
  | encode (error : EncodeError)
deriving DecidableEq

def AuthorizationError.message : AuthorizationError → String
  | expand error => error.message
  | encode error => error.message

/-- A user and a password in one text. -/
def basicCredentials (user pass : String) : String :=
  String.ofList (Base64.urlSafe.encode true (encodeText (user.toList ++ ':' :: pass.toList)))

namespace Authorization

def method : Authorization → String
  | basic _ _ => "Basic"
  | bearer _ => "Bearer"
  | claims _ _ _ => "Bearer"

/-- What stands behind the method; claims that cannot be assembled never reach the encoder. -/
def expand (env : Environment String) (encoder : ClaimsEncoder) :
    Authorization → Except AuthorizationError String
  | basic user pass => do
    let user ← (user.expand env).mapError .expand
    let pass ← (pass.expand env).mapError .expand
    return basicCredentials user pass
  | bearer token => (token.expand env).mapError .expand
  | claims entries algorithm secret => do
    let assembled ← (Claims.assemble env entries).mapError .expand
    (encoder assembled algorithm secret).mapError .encode

/-- The value of the header. -/
def headerValue (env : Environment String) (encoder : ClaimsEncoder) (auth : Authorization) :
    Except AuthorizationError String := do
  let value ← auth.expand env encoder
  return auth.method ++ " " ++ value

end Authorization

end RequestScript
