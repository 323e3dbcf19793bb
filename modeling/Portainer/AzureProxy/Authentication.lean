import Mathlib.Logic.Function.Basic
import Portainer.Common.GoPath
import Portainer.Common.Machine
/-!
# The Azure proxy — access tokens, model

`retrieveAuthenticationToken` and `authenticate` of the transport. A request
renews the token under a mutex and reads it afterwards, outside the mutex,
so other requests may renew it in between. Times are in nanoseconds, as
`time.Now` counts them; the token service counts seconds.
-/

namespace Portainer

namespace AzureProxy

/-- `azureAPIToken`. -/
structure AzureAPIToken where
  value : String
  expirationTime : Int
  deriving DecidableEq, Repr

/-- `AzureAuthenticationResponse`: the time of expiry is a text. -/
structure AzureAuthenticationResponse where
  accessToken : String
  expiresOn : String

/-- `time.Second`. -/
def second : Int := 1000000000

/-- `5 * time.Minute`. -/
def fiveMinutes : Int := 300 * second

/-- `authenticate`, on what the token service answers. -/
def authenticate : Except String AzureAuthenticationResponse → Except String AzureAPIToken
  | .error err => .error err
  | .ok token =>
    match Path.atoi token.expiresOn.toList with
    | some expiresOn => .ok ⟨token.accessToken, expiresOn * second⟩
    | none => .error ("strconv.ParseInt: parsing " ++ token.expiresOn)

/-- `retrieveAuthenticationToken`: the token that is there, unless there is
none or it expired more than five minutes ago. -/
def retrieveAuthenticationToken (token : Option AzureAPIToken) (now : Int)
    (answer : Except String AzureAuthenticationResponse) : Except String AzureAPIToken :=
  match token with
  | none => authenticate answer
  | some token =>
    let timeLimit := now - fiveMinutes
    if token.expirationTime < timeLimit then authenticate answer else .ok token

/-- A request that was forwarded, with the time at which it came and the
token that was attached to it. -/
structure Forwarded where
  request : ℕ
  time : Int
  token : AzureAPIToken
  deriving DecidableEq, Repr

/-- The token of the transport, the requests that have renewed it and not
read it yet, with the times at which they came, and those forwarded. `now`
is the time of the last request. -/
structure TokenState where
  token : Option AzureAPIToken := none
  now : Int := 0
  pending : ℕ → Option Int := fun _ => none
  forwarded : List Forwarded := []

/-- A request comes and sees to the token, all under the mutex; or it reads
the token and is forwarded. -/
inductive TokenOp
  | retrieve (request : ℕ) (now : Int) (answer : Except String AzureAuthenticationResponse)
  | attach (request : ℕ)

/-- Requests for the Azure API, in any order of their two parts. A request
whose renewal fails is answered with the error. -/
def tokenMachine : Machine TokenState TokenOp where
  step s
    | .retrieve request now answer =>
      match retrieveAuthenticationToken s.token now answer with
      | .ok token => some { s with
          token := some token, now := now, pending := Function.update s.pending request (some now) }
      | .error _ => some { s with now := now }
    | .attach request =>
      match s.pending request, s.token with
      | some time, some token => some { s with
          pending := Function.update s.pending request none
          forwarded := s.forwarded ++ [⟨request, time, token⟩] }
      | _, _ => none

end AzureProxy

end Portainer
