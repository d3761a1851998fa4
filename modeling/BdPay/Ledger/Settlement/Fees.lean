import BdPay.Platform.Clock

namespace BdPay.Ledger.Settlement

open Platform List

/-! Which fee rule applies to a payment, and what it comes to. -/

def feeMethods : List String :=
  ["BANGLA_QR", "NPSB_IBFT", "BEFTN_CREDIT", "RTGS_GROSS", "BKASH", "NAGAD", "ROCKET", "CARD_DOMESTIC",
    "CARD_INTERNATIONAL", "CARD_AMEX"]

def merchantClasses : List String := ["MICRO", "PERSONAL_RETAIL", "STANDARD"]

def instrumentClasses : List String := ["DEBIT_PREPAID", "CREDIT", "MFS_PSP_WALLET"]

inductive FeeType
  | percentage | flatPaisa | flatPlusPercentage
deriving DecidableEq

/-- A rule that has passed its own checks.  A dimension it leaves out stands for any value. -/
structure FeeRule where
  ruleId : String
  merchantId : Option String
  method : String
  mcc : Option String
  feeType : FeeType
  (rateBps flatAmountMinor : Option Int)
  validFrom : DateTime
  validTo : Option DateTime
  merchantClass : Option String := none
  instrumentClass : Option String := none
  method_known : method ∈ feeMethods
  rate_given : feeType ≠ .flatPaisa → ∃ rate ∈ rateBps, 0 ≤ rate ∧ rate ≤ 10000
  flat_given : feeType ≠ .percentage → ∃ amount ∈ flatAmountMinor, 0 ≤ amount
  merchantClass_known : ∀ tier ∈ merchantClass, tier ∈ merchantClasses
  instrumentClass_known : ∀ tier ∈ instrumentClass, tier ∈ instrumentClasses
deriving DecidableEq

structure FeeRequest where
  (merchantId method : String)
  mcc : Option String
  moment : DateTime
  (merchantClass instrumentClass : Option String)

inductive FeeError
  | noApplicable (method : String) (mcc merchantClass instrumentClass : Option String)
  | notPositive (amountMinor : Int)
  | outside (feeMinor amountMinor : Int) (ruleId : String)
  | invalidOperation
deriving DecidableEq

variable (rules : List FeeRule) (request : FeeRequest) (rule : FeeRule)

def FeeRule.isActive (moment : DateTime) : Bool :=
  rule.validFrom.micros ≤ moment.micros && rule.validTo.all (moment.micros < ·.micros)

/-- A dimension that is left out fits any value. -/
def fits (named asked : Option String) : Bool := named = none || named = asked

namespace FeeRequest

def mcMatch : Bool := fits rule.merchantClass request.merchantClass

def icMatch : Bool := fits rule.instrumentClass request.instrumentClass

/-- From the most specific to the least. -/
def levels : List (FeeRule → Bool) :=
  [fun rule => rule.merchantId = some request.merchantId && rule.mcc.isSome && rule.mcc = request.mcc,
    fun rule => rule.merchantId = some request.merchantId && rule.mcc = none,
    fun rule => rule.merchantId = none && rule.mcc.isSome && rule.mcc = request.mcc && rule.merchantClass.isSome &&
      rule.instrumentClass.isSome && request.mcMatch rule && request.icMatch rule,
    fun rule => rule.merchantId = none && rule.mcc = none && rule.merchantClass.isSome && rule.instrumentClass.isSome &&
      request.mcMatch rule && request.icMatch rule,
    fun rule => rule.merchantId = none && rule.mcc = none && rule.merchantClass.isSome && rule.instrumentClass = none &&
      request.mcMatch rule,
    fun rule => rule.merchantId = none && rule.mcc.isSome && rule.mcc = request.mcc && rule.merchantClass = none &&
      rule.instrumentClass = none,
    fun rule => rule.merchantId = none && rule.mcc = none && rule.merchantClass = none && rule.instrumentClass = none]

def active : List FeeRule := rules.filter fun rule => rule.method = request.method && rule.isActive request.moment

/-- Of the first level that a rule meets, the rule that is valid from the latest; of several, the one listed first. -/
def pick (levels : List (FeeRule → Bool)) : Option FeeRule :=
  levels.findSome? fun level => ((request.active rules).filter level).argmax (·.validFrom.micros)

end FeeRequest

def resolveFeeRule : Except FeeError FeeRule :=
  match request.pick rules request.levels with
  | some rule => .ok rule
  | none => .error (.noApplicable request.method request.mcc request.merchantClass request.instrumentClass)

/-- The quotient, and a half goes to the even neighbour. -/
def halfEven (dividend divisor : Nat) : Nat :=
  let quotient := dividend / divisor
  let twice := 2 * (dividend % divisor)
  if twice < divisor ∨ twice = divisor ∧ quotient % 2 = 0 then quotient else quotient + 1

def digits (number : Nat) : Nat := (Nat.toDigits 10 number).length

/-- The product is kept to fifty significant digits before it is rounded to whole paisa. -/
def multiply (amountMinor rateBps : Nat) : Except FeeError Int :=
  let product := amountMinor * rateBps
  let unit := 10 ^ (digits product - 50)
  let rounded := halfEven (halfEven product unit * unit) 10000
  if digits rounded ≤ 50 then .ok rounded else .error .invalidOperation

def computeFee (amountMinor : Int) : Except FeeError (Int × String) := do
  if amountMinor ≤ 0 then throw (.notPositive amountMinor)
  let percentage := multiply amountMinor.toNat (rule.rateBps.getD 0).toNat
  let flat := rule.flatAmountMinor.getD 0
  let feeMinor ← match rule.feeType with
    | .percentage => percentage
    | .flatPaisa => pure flat
    | .flatPlusPercentage => (flat + ·) <$> percentage
  if ¬ (0 ≤ feeMinor ∧ feeMinor ≤ amountMinor) then throw (.outside feeMinor amountMinor rule.ruleId)
  return (feeMinor, rule.ruleId)

variable {rules listed : List FeeRule} {request : FeeRequest} {rule : FeeRule}

theorem fits_iff : fits named asked = true ↔ ∀ value ∈ named, asked = some value := by
  cases named <;> simp [fits, eq_comm]

theorem resolveFeeRule_eq_ok : resolveFeeRule rules request = .ok rule ↔
      request.pick rules request.levels = some rule := by
  rw [resolveFeeRule]
  cases request.pick rules request.levels <;> simp

theorem mem_active : rule ∈ request.active rules ↔
    rule ∈ rules ∧ rule.method = request.method ∧ rule.isActive request.moment = true := by
  simp [FeeRequest.active]

theorem pick_meets (picked : request.pick rules levels = some rule) :
    rule ∈ request.active rules ∧ ∃ level ∈ levels, level rule = true := by
  obtain ⟨level, listed, latest⟩ := exists_of_findSome?_eq_some picked
  obtain ⟨inside, meets⟩ := mem_filter.mp (argmax_mem latest)
  exact ⟨inside, level, listed, meets⟩

/-! The leading rules. -/

/-- A rule of the first level that any is of, with none of that level valid from later. -/
def FeeRequest.Leads (request : FeeRequest) (rules : List FeeRule) (rule : FeeRule) : Prop :=
  rule ∈ request.active rules ∧ ∃ before level after, request.levels = before ++ level :: after ∧ level rule = true ∧
    ∀ other ∈ request.active rules, (∀ earlier ∈ before, earlier other = false) ∧
      (level other = true → other.validFrom.micros ≤ rule.validFrom.micros)

theorem leads_perm (same : listed.Perm rules) (leads : request.Leads rules rule) : request.Leads listed rule := by
  have members : ∀ {other}, other ∈ request.active listed ↔ other ∈ request.active rules := (same.filter _).mem_iff
  obtain ⟨inside, before, level, after, split, meets, others⟩ := leads
  exact ⟨members.mpr inside, before, level, after, split, meets, fun other member => others other (members.mp member)⟩

theorem leads_of_pick (picked : request.pick rules request.levels = some rule) : request.Leads rules rule := by
  obtain ⟨before, level, after, split, latest, earlier⟩ := findSome?_eq_some_iff.mp picked
  obtain ⟨inside, meets⟩ := mem_filter.mp (argmax_mem latest)
  refine ⟨inside, before, level, after, split, meets, fun other member => ⟨fun first listed => ?_, fun also => ?_⟩⟩
  · have none := argmax_eq_none.mp (earlier first listed)
    exact Bool.eq_false_iff.mpr (filter_eq_nil_iff.mp none other member)
  · exact @List.le_of_mem_argmax _ _ _ (fun rule : FeeRule => rule.validFrom.micros) _ _ _
      (mem_filter.mpr ⟨member, also⟩) latest

theorem exists_pick (leads : request.Leads rules rule) : ∃ picked, request.pick rules request.levels = some picked := by
  obtain ⟨inside, before, level, after, split, meets, -⟩ := leads
  refine Option.ne_none_iff_exists'.mp fun none => ?_
  have empty := argmax_eq_none.mp (findSome?_eq_none_iff.mp none level (by simp [split]))
  exact filter_eq_nil_iff.mp empty rule inside meets

/-- The first of the leading rules in the list. -/
def FeeRequest.Foremost (request : FeeRequest) (rules : List FeeRule) (rule : FeeRule) : Prop :=
  ∃ front rear, rules = front ++ rule :: rear ∧ request.Leads rules rule ∧ ∀ other ∈ front, ¬ request.Leads rules other

theorem argmax_filter_append [LinearOrder β] {f : α → β} (meets : keep best = true)
    (less : ∀ other ∈ front, keep other = true → f other < f best)
    (most : ∀ other ∈ rear, keep other = true → f other ≤ f best) :
    ((front ++ best :: rear).filter keep).argmax f = some best := by
  classical
  have absent : ∀ {other}, f best ≤ f other → other ∉ front.filter keep := by
    intro other above member
    obtain ⟨inside, kept⟩ := mem_filter.mp member
    exact absurd (less other inside kept) (not_lt.mpr above)
  rw [filter_append, filter_cons_of_pos meets]
  refine argmax_eq_some_iff.mpr ⟨by simp, fun other member => ?_, fun other _ above => ?_⟩
  · rcases mem_append.mp member with ahead | behind
    · exact le_of_lt (less other (mem_filter.mp ahead).1 (mem_filter.mp ahead).2)
    · rcases mem_cons.mp behind with rfl | behind
      · exact le_rfl
      · exact most other (mem_filter.mp behind).1 (mem_filter.mp behind).2
  · rw [idxOf_append_of_notMem (absent le_rfl), idxOf_append_of_notMem (absent above), idxOf_cons_self]
    omega

theorem pick_of_foremost (foremost : request.Foremost rules rule) : request.pick rules request.levels = some rule := by
  obtain ⟨front, rear, rfl, ⟨inside, before, level, after, split, meets, others⟩, first⟩ := foremost
  refine findSome?_eq_some_iff.mpr ⟨before, level, after, split, ?_, fun earlier listed => ?_⟩
  · have active : ∀ {other}, other ∈ front ++ rule :: rear → (level other && (other.method = request.method &&
        other.isActive request.moment)) = true → other ∈ request.active (front ++ rule :: rear) ∧ level other = true := by
      intro other member kept
      rw [Bool.and_eq_true] at kept
      exact ⟨mem_filter.mpr ⟨member, kept.2⟩, kept.1⟩
    rw [FeeRequest.active, filter_filter]
    refine argmax_filter_append ?_ (fun other member kept => ?_) fun other member kept => ?_
    · rw [meets, Bool.true_and]
      exact (mem_filter.mp inside).2
    · obtain ⟨known, also⟩ := active (by simp [member]) kept
      by_contra above
      refine first other member ⟨known, before, level, after, split, also, fun third listed => ?_⟩
      exact ⟨(others third listed).1, fun third => ((others _ listed).2 third).trans (not_lt.mp above)⟩
    · obtain ⟨known, also⟩ := active (by simp [member]) kept
      exact (others other known).2 also
  · refine argmax_eq_none.mpr (filter_eq_nil_iff.mpr fun other member => ?_)
    exact Bool.eq_false_iff.mp ((others other member).1 earlier listed)

theorem pick_eq_some_iff : request.pick rules request.levels = some rule ↔ request.Foremost rules rule := by
  classical
  refine ⟨fun picked => ?_, pick_of_foremost⟩
  have leads := leads_of_pick picked
  have some_leads : (rules.find? fun rule => request.Leads rules rule).isSome :=
    find?_isSome.mpr ⟨rule, (mem_active.mp leads.1).1, decide_eq_true leads⟩
  obtain ⟨found, search⟩ := Option.isSome_iff_exists.mp some_leads
  obtain ⟨leading, front, rear, split, none⟩ := find?_eq_some_iff_append.mp search
  have foremost : request.Foremost rules found :=
    ⟨front, rear, split, of_decide_eq_true leading, fun other member => by simpa using none other member⟩
  obtain rfl := Option.some.inj (picked.symm.trans (pick_of_foremost foremost))
  exact foremost

/-! Agreement. -/

/-- The rule is valid at the request's time and agrees with it wherever it does not leave the value open. -/
structure FeeRule.Agrees (rule : FeeRule) (request : FeeRequest) : Prop where
  merchant : ∀ id ∈ rule.merchantId, request.merchantId = id
  merchantClass : ∀ tier ∈ rule.merchantClass, request.merchantClass = some tier
  method : rule.method = request.method
  instrumentClass : ∀ tier ∈ rule.instrumentClass, request.instrumentClass = some tier
  valid : rule.isActive request.moment = true

/-- All levels but the merchant's own look at both classes. -/
theorem pick_tiers (picked : request.pick rules request.levels = some rule) :
    rule.merchantId = some request.merchantId ∨
    rule.merchantId = none ∧ request.mcMatch rule = true ∧ request.icMatch rule = true := by
  obtain ⟨-, level, listed, meets⟩ := pick_meets picked
  simp only [FeeRequest.levels, mem_cons, not_mem_nil, or_false] at listed
  rcases listed with rfl | rfl | rfl | rfl | rfl | rfl | rfl <;>
    simp only [Bool.and_eq_true, decide_eq_true_eq] at meets <;>
    simp [FeeRequest.mcMatch, FeeRequest.icMatch, fits, meets] at meets ⊢ <;> tauto

/-- The rule that is returned agrees with the request, unless the first of the leading rules is one of the
merchant's own: those are not held against the classes they name. -/
theorem resolved_agrees_iff (rules : List FeeRule) (request : FeeRequest) :
    (∀ rule, resolveFeeRule rules request = .ok rule → rule.Agrees request) ↔
      ∀ rule, request.Foremost rules rule → rule.merchantId = some request.merchantId →
        (∀ tier ∈ rule.merchantClass, request.merchantClass = some tier) ∧
          ∀ tier ∈ rule.instrumentClass, request.instrumentClass = some tier := by
  simp only [resolveFeeRule_eq_ok]
  constructor
  · intro agrees rule foremost _
    have agreed := agrees rule (pick_of_foremost foremost)
    exact ⟨agreed.merchantClass, agreed.instrumentClass⟩
  · intro tiers rule picked
    obtain ⟨-, method, valid⟩ := mem_active.mp (pick_meets picked).1
    rcases pick_tiers picked with own | ⟨shared, merchantClass, instrumentClass⟩
    · have fit := tiers rule (pick_eq_some_iff.mp picked) own
      exact ⟨by simp [own], fit.1, method, fit.2, valid⟩
    · exact ⟨by simp [shared], fits_iff.mp merchantClass, method, fits_iff.mp instrumentClass, valid⟩

def sampleRule (ruleId : String) (rateBps : Int) (known : 0 ≤ rateBps ∧ rateBps ≤ 10000) : FeeRule where
  ruleId := ruleId
  merchantId := none
  method := "BKASH"
  mcc := none
  feeType := .percentage
  rateBps := some rateBps
  flatAmountMinor := none
  validFrom := ⟨0, DateTime.zero_inRange⟩
  validTo := none
  method_known := by decide
  rate_given := fun _ => ⟨rateBps, rfl, known⟩
  flat_given := fun other => absurd rfl other
  merchantClass_known := by decide
  instrumentClass_known := by decide

def sampleRequest : FeeRequest := ⟨"mrch_1", "BKASH", none, ⟨0, DateTime.zero_inRange⟩, some "STANDARD", none⟩

def microRule : FeeRule :=
  { sampleRule "frule_1" 50 (by decide) with
    merchantId := some "mrch_1"
    merchantClass := some "MICRO"
    merchantClass_known := by decide }

theorem own_rule_of_other_class :
    ¬ ∀ rule, resolveFeeRule [microRule] sampleRequest = .ok rule → rule.Agrees sampleRequest := by
  intro agrees
  exact absurd ((agrees microRule rfl).merchantClass "MICRO" rfl) (by decide)

/-! Order. -/

/-- The order of the rules does not matter just if no two rules lead. -/
theorem resolve_perm_iff (rules : List FeeRule) (request : FeeRequest) :
    (∀ listed, listed.Perm rules → resolveFeeRule listed request = resolveFeeRule rules request ∧
      ∀ amountMinor, (do computeFee (← resolveFeeRule listed request) amountMinor) =
        (do computeFee (← resolveFeeRule rules request) amountMinor)) ↔
      ∀ first second, request.Leads rules first → request.Leads rules second → first = second := by
  constructor
  · intro same first second one two
    have front : ∀ {rule}, request.Leads rules rule → resolveFeeRule rules request = .ok rule := by
      intro rule leads
      have moved : (rule :: rules.erase rule).Perm rules := (List.perm_cons_erase (mem_active.mp leads.1).1).symm
      exact (same _ moved).1.symm.trans (resolveFeeRule_eq_ok.mpr (pick_of_foremost
        ⟨[], _, rfl, leads_perm moved leads, by simp⟩))
    exact Except.ok.inj ((front one).symm.trans (front two))
  · intro single listed moved
    have equal : request.pick listed request.levels = request.pick rules request.levels := by
      cases found : request.pick listed request.levels with
      | some rule =>
        have leads := leads_perm moved.symm (leads_of_pick found)
        obtain ⟨picked, also⟩ := exists_pick leads
        rw [also, single rule picked leads (leads_of_pick also)]
      | none =>
        cases also : request.pick rules request.levels with
        | none => rfl
        | some =>
          obtain ⟨picked, other⟩ := exists_pick (leads_perm moved (leads_of_pick also))
          rw [found] at other
          cases other
    have resolved : resolveFeeRule listed request = resolveFeeRule rules request := by
      rw [resolveFeeRule, equal, resolveFeeRule]
    exact ⟨resolved, fun _ => by rw [resolved]⟩

/-- Two rules for the same payments that are valid from the same moment. -/
theorem order_decides_rule :
    resolveFeeRule [sampleRule "frule_1" 175 (by decide), sampleRule "frule_2" 50 (by decide)] sampleRequest ≠
      resolveFeeRule [sampleRule "frule_2" 50 (by decide), sampleRule "frule_1" 175 (by decide)] sampleRequest := by
  decide

end BdPay.Ledger.Settlement
