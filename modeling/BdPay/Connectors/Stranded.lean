import BdPay.Connectors.Forgery

namespace BdPay.Connectors.WebhookPipeline

open Platform Data Effect

/-! Whether a delivery is stranded: neither a redelivery nor a sweep takes its row up again. -/

abbrev Unstranded (inbox : WebhookInbox) : Prop := ∀ row ∈ inbox.rows.values, row.status.rests

structure Rested (pipeline : WebhookPipeline) (inbox : WebhookInbox) : Prop where
  archived : Archived pipeline inbox
  rests : ∀ {key row}, inbox.rows.get? key = some row → row.status.rests

variable {pipeline : WebhookPipeline} {kernel : KernelHandoff}

variable (steady : ∀ handed result, kernel handed result ≠ .raised)
include steady

section

variable (rested : Rested pipeline inbox)

include rested

theorem sweepRow_rests (waits : record.status = .parked)
    (pointer : record.rawPointer = .webhook record.key.1 record.key.2)
    (stored : inbox.rows.get? record.key = some old) :
    ∃ after final, pipeline.sweepRow kernel now record inbox = .ok () after ∧ Rested pipeline after ∧
      after.rows = inbox.rows.set record.key final := by
  obtain ⟨body, present⟩ := rested.archived.present stored
  have kept : inbox.rows = inbox.rows.set record.key old := (Dict.set_of_get? stored).symm
  rw [sweepRow]
  split_ifs
  · rw [bind_of_ok (advance_run now record .rejected (some .unmatched) stored (by simp [waits, allowed])),
      bind_of_ok (audited_run _)]
    exact ⟨_, _, rfl, ⟨rested.archived.write rfl (fun _ _ => rfl) rfl pointer ⟨body, present⟩,
      Dict.forall_set rested.rests rfl⟩, rfl⟩
  · cases pipeline.handlers.get? record.connectorId with
    | none => exact ⟨inbox, old, rfl, rested, kept⟩
    | some handler =>
      simp only
      rw [bind_of_ok (fetch_run (pointer ▸ present))]
      cases handler.parseEvent [] body with
      | none => exact ⟨inbox, old, rfl, rested, kept⟩
      | some result =>
        simp only
        rw [bind_of_ok (advance_run now record .parsed none stored (by simp [waits, allowed]))]
        obtain ⟨final, after, given, ending⟩ := @handoff_run
          { inbox with rows := inbox.rows.set record.key (record.moved now .parsed none) } pipeline kernel now
          (record.moved now .parsed none) result _ (Dict.get?_set_self _ _ _) rfl (pointer ▸ present)
        rw [if_neg (steady _ _)] at ending
        obtain ⟨outcome, ran⟩ := ending
        have rows : after.rows = inbox.rows.set record.key final := given.rows.trans (Dict.set_set _ _ _ _)
        rw [bind_of_ok ran]
        exact ⟨after, final, rfl, ⟨rested.archived.write rows given.objects given.key (given.pointer.trans pointer)
          ⟨body, present⟩, rows ▸ Dict.forall_set rested.rests (given.rests (steady _ _))⟩, rows⟩

theorem forEach_sweepRow_rests
    (listed : ∀ record ∈ records, record.status = .parked ∧ record.rawPointer = .webhook record.key.1 record.key.2 ∧
      inbox.rows.get? record.key ≠ none) :
    Rested pipeline (leaves (forEach records (pipeline.sweepRow kernel now)) inbox) := by
  induction records generalizing inbox with
  | nil => exact rested
  | cons record rest ih =>
    obtain ⟨waits, pointer, present⟩ := listed record List.mem_cons_self
    obtain ⟨old, stored⟩ := Option.ne_none_iff_exists'.mp present
    obtain ⟨after, final, ran, rests, rows⟩ := sweepRow_rests steady rested waits pointer stored
    rw [forEach, leaves_bind_of_ok ran]
    refine ih rests fun other member => ?_
    obtain ⟨waits, pointer, present⟩ := listed other (List.mem_cons_of_mem _ member)
    refine ⟨waits, pointer, ?_⟩
    rw [rows, Dict.get?_set]
    split_ifs
    · simp
    · exact present

theorem Rested.receive (arrival : Arrival) : Rested pipeline (pipeline.receive kernel inbox arrival) := by
  cases arrival with
  | sweep now =>
    refine forEach_sweepRow_rests steady rested fun record member => ?_
    obtain ⟨inside, waits⟩ := List.mem_filter.mp member
    obtain ⟨key, found⟩ := Dict.get?_of_mem_values inside
    obtain ⟨rfl, pointer⟩ := rested.archived.keyed found
    exact ⟨by simpa using waits, pointer, by simp [found]⟩
  | delivery now delivery =>
    cases found : pipeline.handlers.get? delivery.connectorId with
    | none =>
      simp only [WebhookPipeline.receive, ingest, found]
      exact rested
    | some handler =>
      have stored := rested.archived.kept delivery
      obtain ⟨-, rows, objects, -⟩ | ⟨-, final, made⟩ :=
        @ingest_leaves pipeline kernel inbox now _ delivery handler found rfl
      · exact ⟨stored.congr rows objects, rows ▸ rested.rests⟩
      · have rows := made.rows.trans (Dict.set_set _ _ _ _)
        exact ⟨stored.write rows made.objects made.key made.pointer ⟨_, kept_self delivery⟩,
          rows ▸ Dict.forall_set rested.rests (made.rests fun _ _ => steady _ _)⟩

end

omit steady

/-- The first delivery of a result to a kernel that raises once, its redelivery and a sweep. -/
def raisedOnce : WebhookInbox :=
  samplePipeline.run (fun handed _ => if handed.isEmpty then .raised else .committed)
    [sampleArrival "secret", sampleArrival "secret", .sweep ⟨1, DateTime.one_inRange⟩]

end BdPay.Connectors.WebhookPipeline
