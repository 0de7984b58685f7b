import Mathlib.Data.List.Nodup
import AvroLink.Proofs.Fresh
import AvroLink.Proofs.Order

/-!
# Runs without some of their definitions

A definition that a run does not commit leaves no trace in it: a run without any of them commits
the same definitions in the same order (`Swept.filter`). A run does not tell equal definitions
apart, so which of them were left pending is read off the same run with the places of the
definitions for ids (`numbered`); that the ids change nothing else is `resolve_relabel`.
-/

namespace AvroLink.Resolve

variable {ε α : Type} {parser : Parser ε α} {limit : Option UInt32} {ns seed : Namespace}
  {attempts : UInt32} {ds ds' committed : List Definition} {p : Pass ε α} {r : Resolution ε α}

/-! ## Leaving out definitions that are not committed -/

/-- A pass without definitions that it does not commit goes through the same namespaces. -/
theorem Attempted.filter (h : Attempted parser limit ns attempts ds committed p)
    {keep : Definition → Bool} (hkeep : ∀ d ∈ committed, keep d) (attempts' : UInt32) :
    ∃ attempts'', Attempted parser none ns attempts' (ds.filter keep) committed
      ⟨p.resolved, p.failed.filter (keep ·.definition), p.types, attempts''⟩ := by
  induction h generalizing attempts' with
  | nil ns => exact ⟨attempts', .nil ns attempts'⟩
  | @committed _ _ _ d _ committed _ _ _ head _ ih =>
    obtain ⟨hd, hkeep⟩ := List.forall_mem_cons.mp hkeep
    obtain ⟨attempts'', h⟩ := ih hkeep (attempts' + 1)
    rw [List.filter_cons_of_pos hd]
    exact ⟨attempts'', .committed (by simp) head h⟩
  | @rolledBack _ _ d _ _ e _ _ head _ ih =>
    cases hd : keep d with
    | true =>
      obtain ⟨attempts'', h⟩ := ih hkeep (attempts' + 1)
      simp only [List.filter_cons, hd, if_true]
      exact ⟨attempts'', .rolledBack (by simp) head h⟩
    | false =>
      obtain ⟨attempts'', h⟩ := ih hkeep attempts'
      simp only [List.filter_cons, hd, Bool.false_eq_true, if_false]
      exact ⟨attempts'', h⟩

/-- A run without definitions that it does not commit, possibly in fewer passes. -/
theorem Swept.filter (h : Swept parser limit ns attempts ds committed r)
    {keep : Definition → Bool} (hkeep : ∀ d ∈ committed, keep d) (attempts' : UInt32) :
    ∃ passes attempts'', Swept parser none ns attempts' (ds.filter keep) committed
      ⟨r.resolved, r.unresolved.filter (keep ·.definition), r.types, passes, attempts''⟩ := by
  induction h generalizing attempts' with
  | done ns => exact ⟨0, attempts', .done ns attempts'⟩
  | @last _ _ ds _ p _ pass stuck =>
    obtain rfl := pass.did.committed_eq_nil stuck
    obtain ⟨attempts'', hq⟩ := pass.filter hkeep attempts'
    have hlen := hq.did.length
    by_cases hnil : ds.filter keep = []
    · -- nothing is kept, so the run ends before its first pass
      have hfailed : p.failed.filter (keep ·.definition) = [] := by
        rw [hnil] at hlen
        exact List.eq_nil_of_length_eq_zero (by simpa using hlen)
      obtain ⟨hres, htypes⟩ := pass.did.inTurn.of_nil
      rw [hnil, hfailed, hres, htypes]
      exact ⟨0, attempts', .done _ attempts'⟩
    · exact ⟨1, attempts'', .last hnil hq (by simpa using Nat.le_of_eq hlen.symm)⟩
  | @next _ _ ds committed committed' p r pass progress _ ih =>
    obtain ⟨attempts₁, hq⟩ := pass.filter
      (fun d hd => hkeep d (List.mem_append_left committed' hd)) attempts'
    obtain ⟨passes, attempts₂, hr⟩ :=
      ih (fun d hd => hkeep d (List.mem_append_right committed hd)) attempts₁
    -- both passes commit the same definitions, so both of them make progress or none does
    have hlen := pass.did.length
    have hlen' := hq.did.length
    rw [Pass.pending, List.filter_map] at hr
    exact ⟨passes + 1, attempts₂, .next hq (by omega) hr⟩

/-! ## Changing the ids -/

/-- What the parser had to do with a pending definition: its text and the error. -/
def Unresolved.reason (u : Unresolved ε) : String × ε := (u.definition.content, u.error)

theorem contents_of_reasons {us vs : List (Unresolved ε)}
    (h : us.map Unresolved.reason = vs.map Unresolved.reason) :
    (us.map (·.definition)).map (·.content) = (vs.map (·.definition)).map (·.content) := by
  simpa [Unresolved.reason, Function.comp_def] using congrArg (List.map Prod.fst) h

theorem Attempted.relabel (h : Attempted parser limit ns attempts ds committed p)
    (hc : ds'.map (·.content) = ds.map (·.content)) :
    ∃ committed' us, Attempted parser limit ns attempts ds' committed' { p with failed := us } ∧
      us.map Unresolved.reason = p.failed.map Unresolved.reason := by
  induction h generalizing ds' with
  | nil ns attempts =>
    cases List.map_eq_nil_iff.mp hc
    exact ⟨[], [], .nil ns attempts, rfl⟩
  | committed fuel head _ ih =>
    obtain ⟨d', ds', rfl, hd, hc⟩ := List.map_eq_cons_iff.mp hc
    obtain ⟨committed', us, h, hus⟩ := ih hc
    exact ⟨d' :: committed', us, .committed fuel (hd ▸ head) h, hus⟩
  | @rolledBack _ _ _ _ _ e _ fuel head _ ih =>
    obtain ⟨d', ds', rfl, hd, hc⟩ := List.map_eq_cons_iff.mp hc
    obtain ⟨committed', us, h, hus⟩ := ih hc
    exact ⟨committed', ⟨d', e⟩ :: us, .rolledBack fuel (hd ▸ head) h,
      by simp [hus, Unresolved.reason, hd]⟩

theorem Swept.relabel (h : Swept parser limit ns attempts ds committed r)
    (hc : ds'.map (·.content) = ds.map (·.content)) :
    ∃ committed' us, Swept parser limit ns attempts ds' committed' { r with unresolved := us } ∧
      us.map Unresolved.reason = r.unresolved.map Unresolved.reason := by
  induction h generalizing ds' with
  | done ns attempts =>
    cases List.map_eq_nil_iff.mp hc
    exact ⟨[], [], .done ns attempts, rfl⟩
  | @last _ _ ds _ p pending pass stuck =>
    obtain ⟨committed', us, h, hus⟩ := pass.relabel hc
    have hlen : ds'.length = ds.length := by simpa using congrArg List.length hc
    have hlen' : us.length = p.failed.length := by simpa using congrArg List.length hus
    exact ⟨committed', us, .last (by grind) h (by simp; omega), hus⟩
  | @next _ _ ds _ _ p _ pass progress _ ih =>
    obtain ⟨committed₁, vs, h, hvs⟩ := pass.relabel hc
    obtain ⟨committed₂, us, hr, hus⟩ := ih (contents_of_reasons hvs)
    have hlen : ds'.length = ds.length := by simpa using congrArg List.length hc
    have hlen' : vs.length = p.failed.length := by simpa using congrArg List.length hvs
    exact ⟨committed₁ ++ committed₂, us, .next h (by simp; omega) hr, hus⟩

/-- A run depends on the ids of its definitions only in how it reports the pending ones. -/
theorem resolve_relabel (h : resolve parser limit ds seed = .ok r)
    (hc : ds'.map (·.content) = ds.map (·.content)) :
    ∃ us, resolve parser limit ds' seed = .ok { r with unresolved := us } ∧
      us.map Unresolved.reason = r.unresolved.map Unresolved.reason := by
  obtain ⟨committed, hs⟩ := sweep_eq_ok.mp h
  obtain ⟨committed', us, hs', hus⟩ := hs.relabel hc
  exact ⟨us, sweep_eq_ok.mpr ⟨committed', hs'⟩, hus⟩

/-! ## Leaving out what was pending -/

/-- If the ids tell the definitions apart, a run without the pending ones comes to the same end. -/
theorem resolve_filter_ids (hids : (ds.map (·.id)).Nodup)
    (h : resolve parser limit ds seed = .ok r) :
    ∃ passes attempts, resolve parser none (ds.filter (·.id ∉ r.unresolvedIds)) seed =
      .ok ⟨r.resolved, [], r.types, passes, attempts⟩ := by
  obtain ⟨committed, hs⟩ := sweep_eq_ok.mp h
  have hsplit := (hs.history.split.map (·.id)).nodup_iff.mpr hids
  rw [List.map_append, List.map_map] at hsplit
  have hkeep : ∀ d ∈ committed, decide (d.id ∉ r.unresolvedIds) = true := by
    intro d hd
    refine decide_eq_true fun hpending => ?_
    exact (List.nodup_append.mp hsplit).2.2 d.id (List.mem_map_of_mem hd) d.id hpending rfl
  obtain ⟨passes, attempts, hq⟩ := hs.filter hkeep 0
  have hnone : r.unresolved.filter (·.definition.id ∉ r.unresolvedIds) = [] := by
    refine List.filter_eq_nil_iff.mpr fun u hu => ?_
    have hid : u.definition.id ∈ r.unresolvedIds := List.mem_map.mpr ⟨u, hu, rfl⟩
    simpa using hid
  rw [hnone] at hq
  exact ⟨passes, attempts, sweep_eq_ok.mpr ⟨committed, hq⟩⟩

/-- The definitions with their places for ids. -/
def numbered (ds : List Definition) : List Definition :=
  ds.zipIdx.map fun (d, i) => ⟨toString i, d.content⟩

/-- The definitions that are not pending, given those that are with their places for ids. -/
def settled (us : List (Unresolved ε)) (ds : List Definition) : List Definition :=
  (ds.zipIdx.filter fun (_, i) => toString i ∉ us.map (·.definition.id)).map Prod.fst

theorem contents_numbered (ds : List Definition) :
    (numbered ds).map (·.content) = ds.map (·.content) := by
  have hcomp : (·.content) ∘ (fun (d, i) => ⟨toString i, d.content⟩ : Definition × Nat → Definition)
      = (·.content) ∘ Prod.fst := rfl
  rw [numbered, List.map_map, hcomp, ← List.map_map, List.zipIdx_map_fst]

theorem nodup_numbered (ds : List Definition) : ((numbered ds).map (·.id)).Nodup := by
  have hids : (numbered ds).map (·.id) = (ds.zipIdx.map Prod.snd).map toString := by
    rw [numbered, List.map_map, List.map_map]
    rfl
  rw [hids, List.zipIdx_map_snd]
  exact List.Nodup.map toString_injective List.nodup_range'

theorem contents_settled (us : List (Unresolved ε)) (ds : List Definition) :
    (settled us ds).map (·.content) =
      ((numbered ds).filter (·.id ∉ us.map (·.definition.id))).map (·.content) := by
  simp [settled, numbered, List.filter_map, Function.comp_def]

/-- A run without the definitions that are left pending comes to the same end. -/
theorem resolve_settled (h : resolve parser limit ds seed = .ok r) :
    ∃ us, resolve parser limit (numbered ds) seed = .ok { r with unresolved := us } ∧
      us.map Unresolved.reason = r.unresolved.map Unresolved.reason ∧
      ∃ passes attempts, resolve parser none (settled us ds) seed =
        .ok ⟨r.resolved, [], r.types, passes, attempts⟩ := by
  obtain ⟨us, hq, hus⟩ := resolve_relabel h (contents_numbered ds)
  obtain ⟨passes, attempts, hf⟩ := resolve_filter_ids (nodup_numbered ds) hq
  obtain ⟨vs, hr, hvs⟩ := resolve_relabel hf (contents_settled us ds)
  cases List.map_eq_nil_iff.mp hvs
  exact ⟨us, hq, hus, passes, attempts, hr⟩

/-- Of two copies of a record, the later one parses first, as soon as the type of its field is
known; so the copy that is left out is the one at the first place. -/
theorem resolve_settled_copies : ∃ r us passes attempts,
    resolveAvro none [fooUser, bareFoo, fooUser] .empty = .ok r ∧
    us.map Unresolved.reason = r.unresolved.map Unresolved.reason ∧
    us.map (·.definition.id) = ["0"] ∧
    settled us [fooUser, bareFoo, fooUser] = [bareFoo, fooUser] ∧
    resolveAvro none [bareFoo, fooUser] .empty =
      .ok ⟨r.resolved, [], r.types, passes, attempts⟩ := by
  have hids : (resolveAvro none (numbered [fooUser, bareFoo, fooUser]) .empty).map
      (·.unresolvedIds) = .ok ["0"] := by decide +kernel
  obtain ⟨r, hr⟩ := resolve_unlimited Schema.parse [fooUser, bareFoo, fooUser] .empty
  obtain ⟨us, hq, hus, passes, attempts, hf⟩ := resolve_settled hr
  rw [resolveAvro, hq] at hids
  have hids : us.map (·.definition.id) = ["0"] := Except.ok.inj hids
  have hsettled : settled us [fooUser, bareFoo, fooUser] = [bareFoo, fooUser] := by
    rw [settled, hids]
    decide +kernel
  rw [hsettled] at hf
  exact ⟨r, us, passes, attempts, hr, hus, hids, hsettled, hf⟩

end AvroLink.Resolve
