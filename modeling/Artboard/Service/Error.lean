import Artboard.Json.Fault
import Artboard.Service.Exchange
import Artboard.Text.Quoted

/-!
# Service errors

What can go wrong between the address of a file and what the service says about
it.  Nothing of this is tried again.
-/

namespace Artboard

/-- Why the service could not be asked, or did not say what was asked for. -/
inductive ServiceError where
  | missingToken
  /-- The address of the service is not one that can be asked. -/
  | invalidUrl (text : String) (refusal : Url.Refusal)
  /-- The address of a file names no key. -/
  | invalidFileUrl (url : String)
  | transport (url : Url) (hindrance : Hindrance)
  /-- The service refused, with a status and a message. -/
  | status (code : Nat) (message : String)
  /-- The body is not what was asked for. -/
  | payload (body : String) (fault : Json.Fault)
  /-- The service reports that it failed. -/
  | unexpected (text : String)
  deriving DecidableEq, Repr

namespace ServiceError

/-- The causes below the error itself, the outermost first. -/
def innerCauses : ServiceError → List String
  | transport url hindrance => hindrance.causes url
  | payload body fault => [fault.describe body.toList]
  | _ => []

def message : ServiceError → String
  | missingToken => "design service access token is required"
  | invalidUrl text refusal => "invalid design service URL: " ++ refusal.message text
  | invalidFileUrl url => "could not extract a file key from " ++ Text.quoted url
  | transport url hindrance =>
    "design service HTTP request failed: " ++ (hindrance.causes url).headD ""
  | status code message => "design service returned " ++ toString code ++ ": " ++ message
  | payload body fault =>
    "failed to parse design service payload: " ++ fault.describe body.toList
  | unexpected text => "unexpected design service response: " ++ text

/-- Whether the service refused whoever asks. -/
def isAuth : ServiceError → Bool
  | status code _ => code == 401 || code == 403
  | _ => false

end ServiceError

end Artboard
