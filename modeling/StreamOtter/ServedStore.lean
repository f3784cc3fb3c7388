import StreamOtter.ServiceWrites

/-!
# Store calls that are served

What a store call comes to when no call throws.
-/

namespace StreamOtter

open FailureStore

namespace StoreAccess

variable {s : StoreAccess}

theorem dateNow_faults (s : StoreAccess) : s.dateNow.2.faults = s.faults := by
  unfold dateNow
  split <;> rfl

theorem nowIso_faults (s : StoreAccess) : s.nowIso.2.faults = s.faults := s.dateNow_faults

theorem read_served {α : Type} (h : s.faults = []) (query : Journal → α) :
    s.read query = (.ok (query s.journal), s) := by
  unfold read fault
  rw [h]

theorem call_accepted {c : StoreCall} {reply : StoreReply} {j : Journal} (h : s.faults = [])
    (hcall : s.journal.call MemoryIncidentStore.codeUnitLe maxOperations c = .ok (reply, j)) :
    s.call c = (.ok reply, { s with journal := j }) := by
  unfold call fault
  simp only [h, hcall]

theorem call_refused {c : StoreCall} {refusal : Refusal} (h : s.faults = [])
    (hcall : s.journal.call MemoryIncidentStore.codeUnitLe maxOperations c = .error refusal) :
    s.call c = (.error refusal, s) := by
  unfold call fault
  simp only [h, hcall]

/-- A change of an incident at its own revision. -/
theorem journal_update {j : Journal} {record : IncidentRecord} (patch : IncidentPatch)
    (event : IncidentEvent) (hget : j.incidents.get record.failureId = some record) :
    j.call MemoryIncidentStore.codeUnitLe maxOperations
      (.update record.failureId record.revision patch event) =
      .ok (.updated (patched patch event.time record), j.record (patched patch event.time record)
        event) := by
  show j.update _ _ _ _ = _
  unfold Journal.update
  rw [hget]
  exact if_neg (not_not.mpr rfl)

end StoreAccess

end StreamOtter
