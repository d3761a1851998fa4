import BdPay.Platform.Canonical

namespace BdPay.Platform

open Data

/-! Content-addressed identifiers: `<prefix>_<first 24 hex digits of the payload's hash>`. -/

/-- The prefix table of the conventions, with its registered additions. -/
def idPrefixes : List String :=
  ["mrch", "cust", "part", "pi", "pa", "rfnd", "acct", "je", "post", "chn", "aud", "sbatch", "swin",
    "sinst", "recon", "rexc", "posn", "ndc", "kyc", "kyb", "aml", "str", "ctr", "sanc", "pack", "cres",
    "idem", "obx", "tcsa", "appr", "ins", "creg", "cmode", "chlth", "cbrk", "winb", "simsc", "certr", "fcor"]

def hashLength : Nat := 24

inductive IdError where
  | unknownPrefix (text : String)
  | canonical (error : CanonicalError)
deriving DecidableEq

/-- `f"{prefix}_{sha256_canonical(payload)[:HASH_LENGTH]}"`. -/
def mintId (sha256 : String → String) (label : String) (payload : List (String × PyValue)) :
    Except IdError String :=
  match sha256Canonical sha256 (.dict payload) with
  | .ok digest => .ok (String.ofList (label.toList ++ '_' :: digest.toList.take hashLength))
  | .error error => .error (.canonical error)

def makeId (sha256 : String → String) (label : String) (payload : List (String × PyValue)) :
    Except IdError String :=
  if label ∈ idPrefixes then mintId sha256 label payload
  else .error (.unknownPrefix label)

/-- Payload keys that carry opaque identifiers, which redaction leaves alone. -/
def isOpaqueIdentifierKey (key : String) : Bool :=
  key == "idempotency_key" || Text.endsWith key.toList "_id".toList || Text.endsWith key.toList "_ref".toList

/-- An identifier is its label, an underscore and a piece of a digest. -/
theorem mem_mintId (made : mintId sha256 label payload = .ok minted) (member : char ∈ minted.toList) :
    char ∈ label.toList ∨ char = '_' ∨ ∃ text, char ∈ (sha256 text).toList := by
  simp only [mintId, sha256Canonical] at made
  cases canonical : canonicalJson (.dict payload) with
  | error => simp [canonical, Except.map] at made
  | ok text =>
    simp only [canonical, Except.map, Except.ok.injEq] at made
    subst made
    simp only [String.toList_ofList, List.mem_append, List.mem_cons] at member
    exact member.imp_right (Or.imp_right fun inside => ⟨text, List.mem_of_mem_take inside⟩)

theorem mintId_ne_empty (made : mintId sha256 label payload = .ok minted) : minted ≠ "" := by
  simp only [mintId, sha256Canonical] at made
  cases canonical : canonicalJson (.dict payload) with
  | error => simp [canonical, Except.map] at made
  | ok =>
    simp only [canonical, Except.map, Except.ok.injEq] at made
    subst made
    intro empty
    simpa using congrArg String.toList empty

end BdPay.Platform
