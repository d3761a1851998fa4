import BdPay.Ledger.Position.Movements

namespace BdPay.Ledger.Position

open Platform Data Effect

/-! Caps over whole runs: what a failing call leaves, and which cap a debit is checked against. -/

variable {store later : PositionStore} {service : PositionService} {now : DateTime} {party : String}
  {last : Nat}

/-! A call that raises. -/

/-- A call that raises leaves the active cap of its participant as it was. -/
def CapCall.KeepsActive (call : CapCall) (service : PositionService) (now : DateTime) (store : PositionStore) : Prop :=
  value? (call.run service now) store = none →
    (leaves (call.run service now) store).activeCap call.participantId = store.activeCap call.participantId

instance (call : CapCall) : Decidable (call.KeepsActive service now store) := inferInstanceAs (Decidable (_ → _))

def sampleService : PositionService where
  platformMode := "PSO"
  windowIdFor := fun _ dnsSession => dnsSession
  ndcIdFor := fun participantId capAmountMinor effective => s!"{participantId}/{capAmountMinor}/{effective.micros}"
  positionAccountIdFor := fun participantId windowId => participantId ++ windowId
  strayBreachIdFor := fun participantId _ => participantId
  breachIdFor := fun participantId _ _ _ => participantId

def sampleNow : DateTime := ⟨739616 * 86400000000, DateTime.year2026_inRange⟩

def sampleCall : CapCall := ⟨"bank_1", 100, "ops_1", "apr_1", "opening", none⟩

def setCap (capAmountMinor : Int) (effectiveFrom : Option DateTime) : Operation :=
  .setNetDebitCap "bank_1" capAmountMinor "ops_1" "apr_1" "opening" effectiveFrom

/-- The latest cap of a participant whose time has come. -/
structure InForce (store : PositionStore) (participantId : String) (now : DateTime) (cap : NetDebitCap) : Prop where
  listed : cap ∈ store.caps.values
  own : cap.participantId = participantId
  due : cap.effectiveFrom.micros ≤ now.micros
  latest : ∀ other ∈ store.caps.values, other.participantId = participantId →
    other.effectiveFrom.micros ≤ now.micros → other.effectiveFrom.micros ≤ cap.effectiveFrom.micros

/-- A debit is checked against the cap in force, and is refused for want of a cap only if there is none. -/
def CheckedInForce (service : PositionService) (store : PositionStore) (participantId : String) (amountMinor : Int)
    (entryId sourcePaymentId : Option String) (now : DateTime) : Prop :=
  Stops (service.postDebit participantId amountMinor entryId sourcePaymentId now) store
    (fun row _ => ∃ cap, InForce store participantId now cap ∧ max 0 (-row.netPositionMinor) ≤ cap.capAmountMinor)
    fun error _ => match error with
      | .ndcBreach _ _ headroom => headroom < 0 ∧ ∃ cap window, InForce store participantId now cap ∧
          store.findAccumulatingWindow = some window ∧
          headroom = PositionService.headroom cap ((store.standing participantId window.windowId).1 - amountMinor)
      | .ndcNotConfigured _ => ∀ cap, ¬ InForce store participantId now cap
      | _ => True

/-- The clock does not go back, and caps take effect at once, each under an identifier of its own. -/
def Prompt (service : PositionService) (store : PositionStore) (last : Nat) : List Step → Prop
  | [] => True
  | step :: rest => last ≤ step.now.micros ∧
      (∀ call ∈ step.capCall?, call.Accepted service step.now → (call.effective step.now).micros ≤ step.now.micros ∧
        ¬ call.Collides service step.now store) ∧
      Prompt service (service.after store step) step.now.micros rest

/-- Nobody who ever had a cap is without one, and no cap is ahead of its time or of the active one. -/
structure Timely (store : PositionStore) (last : Nat) : Prop where
  capped : store.Capped
  past : ∀ cap ∈ store.caps.values, cap.effectiveFrom.micros ≤ last
  led : ∀ cap ∈ store.caps.values, ∃ active, store.activeCap cap.participantId = some active ∧
    cap.effectiveFrom.micros ≤ active.effectiveFrom.micros

theorem Timely.mono (timely : Timely store last) (onward : last ≤ next) : Timely store next :=
  ⟨timely.capped, fun cap member => (timely.past cap member).trans onward, timely.led⟩

theorem Timely.congr (timely : Timely store last) (same : later.caps = store.caps) : Timely later last := by
  refine ⟨Capped.congr timely.capped same, same ▸ timely.past, fun cap member => ?_⟩
  rw [PositionStore.activeCap, same]
  exact timely.led cap (same ▸ member)

theorem Timely.replaced (timely : Timely store last) {call : CapCall} (accepted : call.Accepted service now)
    (onward : last ≤ now.micros) (prompt : (call.effective now).micros ≤ now.micros)
    (fresh : ¬ call.Collides service now store) :
    Timely ((store.superseded call.participantId now).putCap (call.row service now)) now.micros := by
  have capped := timely.capped
  have free := @PositionStore.Capped.activeCap_superseded store now call.participantId capped
  have after : ((store.superseded call.participantId now).putCap (call.row service now)).Capped :=
    capped.superseded.insert free
  have members := fun cap => @Dict.Keyed.mem_values_set _ _ NetDebitCap.ndcId _ _
    (capped.superseded : (store.superseded call.participantId now).Capped).keyed (call.row service now) cap
  have active := after.activeCap_of_mem ((members _).mpr (.inl rfl)) rfl
  -- Every older cap is one of the store, but for the time it was superseded at.
  have older : ∀ cap ∈ (store.superseded call.participantId now).caps.values,
      cap.effectiveFrom.micros ≤ now.micros ∧ (cap.participantId = call.participantId ∨ cap ∈ store.caps.values) := by
    intro cap member
    rcases capped.mem_superseded.mp member with ⟨inside, -⟩ | ⟨existing, found, rfl⟩
    · exact ⟨(timely.past cap inside).trans onward, .inr inside⟩
    · obtain ⟨inside, own, -⟩ := activeCap_some found
      exact ⟨(timely.past existing inside).trans onward, .inl own⟩
  refine ⟨after, fun cap member => ?_, fun cap member => ?_⟩
  · rcases (members cap).mp member with rfl | ⟨inside, -⟩
    · exact prompt
    · exact (older cap inside).1
  · by_cases own : cap.participantId = call.participantId
    · refine ⟨call.row service now, by rw [own]; exact active, ?_⟩
      rcases (members cap).mp member with rfl | ⟨inside, -⟩
      · exact Nat.le_refl _
      · exact (older cap inside).1.trans accepted.2.2.2
    · rcases (members cap).mp member with rfl | ⟨inside, -⟩
      · exact absurd rfl own
      obtain ⟨leader, found, ahead⟩ := timely.led cap ((older cap inside).2.resolve_left own)
      obtain ⟨listed, same, alive⟩ := activeCap_some found
      refine ⟨leader, ?_, ahead⟩
      rw [← same]
      refine after.activeCap_of_mem ((members leader).mpr (.inr ⟨capped.mem_superseded.mpr (.inl ⟨listed, ?_⟩),
        ?_⟩)) alive
      · intro mine
        exact own (same.symm.trans (activeCap_some mine).2.1)
      · intro taken
        refine fresh fun unbound => ?_
        rw [← taken, capped.keyed.get?_of_mem listed] at unbound
        cases unbound

theorem timely_foldl (sound : store.Sound) (timely : Timely store last)
    (prompt : Prompt service store last (steps ++ [step])) :
    Timely (steps.foldl service.after store) step.now.micros := by
  induction steps generalizing store last with
  | nil => exact timely.mono prompt.1
  | cons first _ ih =>
    obtain ⟨onward, calls, remaining⟩ := prompt
    obtain ⟨⟨sound', -⟩, change⟩ := moves_after service sound timely.capped first
    refine ih sound' ?_ remaining
    cases change with
    | kept same => exact (timely.mono onward).congr same
    | collided call asked accepted collides => exact absurd collides (calls call asked accepted).2
    | replaced call asked accepted same =>
      obtain ⟨prompt, fresh⟩ := calls call asked accepted
      exact (timely.replaced accepted onward prompt fresh).congr same

theorem Timely.inForce (timely : Timely store now.micros)
    (active : store.activeCap party = some cap) : InForce store party now cap := by
  obtain ⟨listed, own, -⟩ := activeCap_some active
  refine ⟨listed, own, timely.past cap listed, fun other member mine _ => ?_⟩
  obtain ⟨leader, found, ahead⟩ := timely.led other member
  rw [mine, active] at found
  exact Option.some.inj found ▸ ahead

/-- In every run in which caps take effect at once, every debit is checked against the cap in force. -/
theorem checkedInForce_of_prompt (service : PositionService) (steps : List Step) (participantId : String)
    (amountMinor : Int) (entryId sourcePaymentId : Option String) (now : DateTime)
    (prompt : Prompt service .empty 0 (steps ++ [⟨now, .postDebit participantId amountMinor entryId sourcePaymentId⟩])) :
    CheckedInForce service (service.run steps) participantId amountMinor entryId sourcePaymentId now := by
  obtain ⟨⟨sound, -⟩, -⟩ := service.run_moves steps
  have timely : Timely (service.run steps) now.micros :=
    timely_foldl sound_empty ⟨capped_empty, by simp [PositionStore.empty], by simp [PositionStore.empty]⟩ prompt
  apply stops_postDebit sound
  · intro error _ unconfigured
    cases error with
    | ndcNotConfigured participant =>
      intro cap inForce
      obtain ⟨active, found, -⟩ := timely.led cap inForce.listed
      rw [inForce.own, unconfigured participant rfl] at found
      cases found
    | _ => trivial
  · intro _
    trivial
  · intro window cap position opened found active opening short
    refine ⟨short, cap, window, timely.inForce active, found, ?_⟩
    rw [← opening.standing, PositionStore.standing, (opening.sound sound).2]
  · intro window cap position opened _ _ active _ enough
    refine ⟨cap, timely.inForce active, ?_⟩
    simp only [PositionService.headroom] at enough
    simp only [PositionAccount.debited]
    omega

def openedSteps : List Step := [⟨sampleNow, .openWindow 1 "s1"⟩, ⟨sampleNow, .windowTick "s1"⟩, ⟨sampleNow, setCap 100 none⟩]

theorem checked_openedSteps :
    CheckedInForce sampleService (sampleService.run openedSteps) "bank_1" 50 none none sampleNow := by
  refine checkedInForce_of_prompt sampleService openedSteps "bank_1" 50 none none sampleNow
    ⟨by decide, ?_, by decide, ?_, by decide, ?_, by decide, ?_, trivial⟩
  · rintro _ ⟨⟩
  · rintro _ ⟨⟩
  · rintro _ ⟨⟩ _
    refine ⟨Nat.le_refl _, ?_⟩
    unfold CapCall.Collides
    decide +kernel
  · rintro _ ⟨⟩

/-- A cap of 500 is scheduled for the next day. -/
def scheduledSteps : List Step :=
  openedSteps ++ [⟨sampleNow, setCap 500 (some ⟨739617 * 86400000000, by decide⟩)⟩]

theorem scheduledSteps_observed :
    ((value? (sampleService.postDebit "bank_1" 300 none none sampleNow) (sampleService.run scheduledSteps)).map
      (·.netPositionMinor)) = some (-300) ∧
    ∀ cap ∈ (sampleService.run scheduledSteps).caps.values, cap.effectiveFrom.micros ≤ sampleNow.micros →
      cap.capAmountMinor = 100 := by
  decide +kernel

theorem scheduled_cap_governs :
    ¬ CheckedInForce sampleService (sampleService.run scheduledSteps) "bank_1" 300 none none sampleNow := by
  intro checked
  obtain ⟨debited, due⟩ := scheduledSteps_observed
  cases ran : sampleService.postDebit "bank_1" 300 none none sampleNow (sampleService.run scheduledSteps) with
  | ok row =>
    rw [value?, ran] at debited
    obtain ⟨cap, inForce, within⟩ := (stops_iff_of_ok ran).mp checked
    have net : row.netPositionMinor = -300 := Option.some.inj debited
    rw [due cap inForce.listed inForce.due, net] at within
    exact absurd within (by decide)
  | error =>
    rw [value?, ran] at debited
    cases debited

end BdPay.Ledger.Position
