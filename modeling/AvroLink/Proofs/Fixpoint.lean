import AvroLink.Proofs.Order

/-!
# The end of a run is a fixpoint

What a run leaves pending fails against the final namespace, each definition with the error that is
recorded for it. So a second run over it from that namespace makes one pass, in which nothing
parses, and ends where it began. `Room` is what a limit leaves for the attempts of such a pass.
-/

namespace AvroLink.Resolve

variable {ε α : Type} {parser : Parser ε α} {limit : Option UInt32} {ns seed : Namespace}
  {attempts : UInt32} {ds committed : List Definition} {us : List (Unresolved ε)}

/-- After `attempts` attempts the limit allows `n` more. -/
def Room (limit : Option UInt32) (attempts : UInt32) (n : Nat) : Prop :=
  ∀ l ∈ limit, attempts.toNat + n ≤ l.toNat

theorem room_one : Room limit attempts 1 ↔ ∀ l ∈ limit, attempts < l := Iff.rfl

/-- An attempt takes one place of the room; the counter does not wrap below a limit. -/
theorem room_succ {n : Nat} :
    Room limit attempts (n + 1) ↔ (∀ l ∈ limit, attempts < l) ∧ Room limit (attempts + 1) n := by
  have hstep : ∀ l : UInt32, attempts < l → (attempts + 1).toNat = attempts.toNat + 1 := by
    intro l hl
    have hlt : attempts.toNat < l.toNat := hl
    have hmax := l.toNat_lt
    rw [UInt32.toNat_add, UInt32.toNat_one]
    omega
  constructor
  · refine fun h => ⟨fun l hl => ?_, fun l hl => ?_⟩ <;> have hroom := h l hl
    · exact UInt32.lt_iff_toNat_lt.mpr (by omega)
    · rw [hstep l (UInt32.lt_iff_toNat_lt.mpr (by omega))]
      omega
  · rintro ⟨hlt, h⟩ l hl
    have hroom := h l hl
    rw [hstep l (hlt l hl)] at hroom
    omega

theorem Attempted.room {p : Pass ε α} (h : Attempted parser limit ns attempts ds committed p)
    (hroom : Room limit attempts 0) : Room limit attempts ds.length := by
  induction h with
  | nil => exact hroom
  | committed fuel _ _ ih | rolledBack fuel _ _ ih =>
    have hnext := (room_succ.mp (room_one.mpr fuel)).2
    exact room_succ.mpr ⟨fuel, ih hnext⟩

theorem Swept.room {r : Resolution ε α} (h : Swept parser limit ns attempts ds committed r)
    (hroom : Room limit attempts 0) : Room limit attempts ds.length := by
  cases h with
  | done => exact hroom
  | last _ pass _ | next pass _ _ => exact pass.room hroom

/-- A pass over definitions that all fail leaves everything as it was. -/
theorem Attempted.of_stuck (hroom : Room limit attempts us.length)
    (hstuck : ∀ u ∈ us, (parser u.definition.content ns).1 = .error u.error) :
    Attempted parser limit ns attempts (us.map (·.definition)) []
      ⟨[], us, ns, attempts + .ofNat us.length⟩ := by
  induction us generalizing attempts with
  | nil => simpa using Attempted.nil ns attempts
  | cons u us ih =>
    obtain ⟨fuel, hroom⟩ := room_succ.mp hroom
    have head := hstuck u List.mem_cons_self
    have tail := ih hroom fun v hv => hstuck v (List.mem_cons_of_mem u hv)
    rw [List.length_cons, add_ofNat_succ]
    exact .rolledBack fuel head tail

/-- A run over definitions that all fail takes one pass. -/
theorem resolve_of_stuck (hroom : Room limit 0 us.length)
    (hstuck : ∀ u ∈ us, (parser u.definition.content ns).1 = .error u.error) :
    resolve parser limit (us.map (·.definition)) ns =
      .ok ⟨[], us, ns, if us.isEmpty then 0 else 1, .ofNat us.length⟩ := by
  rw [resolve, sweep_eq_ok]
  refine ⟨[], ?_⟩
  cases us with
  | nil => exact .done ns 0
  | cons u us =>
    have hpass := Attempted.of_stuck hroom hstuck
    rw [UInt32.zero_add] at hpass
    exact .last (by simp) hpass (by simp)

/-- What a run leaves pending fails against the final namespace as it is reported, and a second run
over it, without a limit or with the same one, changes nothing. -/
theorem resolve_fixpoint {r : Resolution ε α} (h : resolve parser limit ds seed = .ok r) :
    (∀ u ∈ r.unresolved, (parser u.definition.content r.types).1 = .error u.error) ∧
    ∀ limit' ∈ [none, limit],
      resolve parser limit' (r.unresolved.map (·.definition)) r.types =
        .ok { resolved := [], unresolved := r.unresolved, types := r.types,
              passes := if r.isComplete then 0 else 1,
              attempts := .ofNat r.unresolved.length } := by
  obtain ⟨committed, hs⟩ := sweep_eq_ok.mp h
  have hstuck := hs.history.stuck
  refine ⟨hstuck, fun limit' hl => resolve_of_stuck ?_ hstuck⟩
  have hroom : Room limit 0 r.unresolved.length := by
    intro l hl
    have hle : r.unresolved.length ≤ ds.length := by simpa using hs.history.order.length_le
    have := hs.room (by simp [Room]) l hl
    omega
  rcases List.mem_pair.mp hl with rfl | rfl
  · simp [Room]
  · exact hroom

/-- A reference to a type that nothing defines. -/
def orphan : Definition := ⟨"orphan", "\"Missing\""⟩

/-- Three attempts are enough for the orphan to be tried again after the type that is resolved, and
then once more on its own. -/
theorem resolve_fixpoint_orphan : ∃ r, resolveAvro (some 3) [orphan, bareFoo] .empty = .ok r ∧
    r.unresolved.map (·.definition) = [orphan] ∧
    resolveAvro (some 3) [orphan] r.types = .ok ⟨[], r.unresolved, r.types, 1, 1⟩ := by
  have hok : (resolveAvro (some 3) [orphan, bareFoo] .empty).map
      (fun r => r.unresolved.map (·.definition)) = .ok [orphan] := by decide +kernel
  cases hr : resolveAvro (some 3) [orphan, bareFoo] .empty with
  | error e => rw [hr] at hok; cases hok
  | ok r =>
    rw [hr] at hok
    have hu : r.unresolved.map (·.definition) = [orphan] := Except.ok.inj hok
    have hrun := (resolve_fixpoint hr).2 (some 3) (by simp)
    have hlen : r.unresolved.length = 1 := by simpa using congrArg List.length hu
    have hne : r.isComplete = false := by
      cases hc : r.isComplete with
      | true => rw [isComplete_iff.mp hc] at hlen; cases hlen
      | false => rfl
    rw [hu, hlen, hne] at hrun
    exact ⟨r, rfl, hu, hrun⟩

end AvroLink.Resolve
