import RequestScript.Authorization.Outline
import RequestScript.Environment.Forest
import RequestScript.Main
import RequestScript.Word.Quotation
import RequestScript.Workspace
import RequestScript.Proofs.Authorization
import RequestScript.Proofs.Base64
import RequestScript.Proofs.Claims
import RequestScript.Proofs.Json.Quoted
import RequestScript.Proofs.Json.Reading
import RequestScript.Proofs.Bindings
import RequestScript.Proofs.Environment
import RequestScript.Proofs.Environment.Writes
import RequestScript.Proofs.StoreFile
import RequestScript.Proofs.FileTree.Names
import RequestScript.Proofs.FileTree
import RequestScript.Proofs.FileTree.Content
import RequestScript.Proofs.Program
import RequestScript.Proofs.Workspace
import RequestScript.Proofs.Workspace.Faults
import RequestScript.Proofs.Workspace.Replacement
import RequestScript.Proofs.FileStore
import RequestScript.Proofs.FileStore.Changes
import RequestScript.Proofs.FileStore.Frame
import RequestScript.Proofs.FileStore.Failures
import RequestScript.Proofs.Cache.Outcomes
import RequestScript.Proofs.Store.Equivalence
import RequestScript.Proofs.Token.Spelling
import RequestScript.Proofs.Token.Stream
import RequestScript.Proofs.Token.Concatenation
import RequestScript.Proofs.Token.Progress
import RequestScript.Proofs.Token.Region
import RequestScript.Proofs.Token.Heredoc
import RequestScript.Proofs.Token.Malformed
import RequestScript.Proofs.Word.Leaves
import RequestScript.Proofs.Word.RoundTrip
import RequestScript.Proofs.Word.Expansion
import RequestScript.Proofs.Word.Coercion
import RequestScript.Proofs.Instant.Calendar
import RequestScript.Proofs.Text.Decimal
import RequestScript.Proofs.CacheEntry
import RequestScript.Proofs.Cache
import RequestScript.Proofs.Environment.Embedding
import RequestScript.Proofs.Environment.Isolation
import RequestScript.Proofs.Token.LineEnds
import RequestScript.Proofs.Cache.Race
import RequestScript.Proofs.Settings
import RequestScript.Proofs.Claims.Assembly
import RequestScript.Proofs.Json.Ordered
import RequestScript.Proofs.Token.Layout
import RequestScript.Proofs.Token.Reserved
import RequestScript.Proofs.Token.Classification
import RequestScript.Proofs.Environment.Document
import RequestScript.Proofs.Environment.Selection
import RequestScript.Proofs.Environment.Scalars
import RequestScript.Proofs.FileStore.Values
import RequestScript.Proofs.FileStore.Image
import RequestScript.Proofs.FileStore.Drafts
import RequestScript.Proofs.FileStore.Events
import RequestScript.Proofs.FileStore.Stages
import RequestScript.Proofs.Command.Outcome
import RequestScript.Proofs.Command.Variables
import RequestScript.Proofs.Environment.Search
import RequestScript.Proofs.Text.Quoted
import RequestScript.Proofs.Token.Display
import RequestScript.Proofs.Command.Tokens
import RequestScript.Proofs.FileStore.Sharing
import RequestScript.Proofs.FileStore.Overlap
