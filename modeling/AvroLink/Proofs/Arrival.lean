import Mathlib.Data.List.Perm.Basic
import Mathlib.Data.String.Basic
import Mathlib.Logic.Relation
import AvroLink.Proofs.Walk
import AvroLink.Source.Registry

/-!
# The order in which a registry answers

The requests for the versions of the subjects wait for a permit, are open while they hold one and
are answered in some order (`Requests.Step`). Every order of answers is possible, whatever the
number of permits (`completes_iff`). The definitions are sorted by the subject that an answer names,
and answers that name the same subject stay in the order in which they came. So a load gives the
same definitions in every order if and only if such answers hold the same schema.
-/

namespace AvroLink

/-! ## Sorted definitions -/

namespace Definition

variable {ds es : List Definition}

theorem leId_trans (a b c : Definition) (hab : decide (a.id ≤ b.id) = true)
    (hbc : decide (b.id ≤ c.id) = true) : decide (a.id ≤ c.id) = true :=
  decide_eq_true ((of_decide_eq_true hab).trans (of_decide_eq_true hbc))

theorem leId_total (a b : Definition) : (decide (a.id ≤ b.id) || decide (b.id ≤ a.id)) = true := by
  rcases le_total a.id b.id with h | h
  · simp [h]
  · simp [h]

theorem sort_perm (ds : List Definition) : (sort ds).Perm ds := List.mergeSort_perm ds _

theorem pairwise_sort (ds : List Definition) :
    (sort ds).Pairwise fun a b => decide (a.id ≤ b.id) = true :=
  List.pairwise_mergeSort leId_trans leId_total ds

/-- Definitions with the same identifier keep their order. -/
theorem filter_sort (ds : List Definition) (id : String) :
    (sort ds).filter (·.id = id) = ds.filter (·.id = id) := by
  have hsorted : (ds.filter (·.id = id)).Pairwise fun a b => decide (a.id ≤ b.id) = true := by
    refine List.pairwise_of_forall_mem_list fun a ha b hb => ?_
    have hida : a.id = id := by simpa using (List.mem_filter.mp ha).2
    have hidb : b.id = id := by simpa using (List.mem_filter.mp hb).2
    exact decide_eq_true (by rw [hida, hidb])
  have hsub : (ds.filter (·.id = id)).Sublist (sort ds) :=
    List.sublist_mergeSort leId_trans leId_total hsorted List.filter_sublist
  have hsame : (ds.filter (·.id = id)).filter (·.id = id) = ds.filter (·.id = id) :=
    List.filter_eq_self.mpr fun a ha => (List.mem_filter.mp ha).2
  have hfilter := hsub.filter (·.id = id)
  rw [hsame] at hfilter
  exact (hfilter.eq_of_length ((sort_perm ds).filter _).length_eq.symm).symm

/-- The order does not matter where definitions with the same identifier are equal. -/
theorem sort_congr (h : ds.Perm es) (heq : ∀ a ∈ ds, ∀ b ∈ ds, a.id = b.id → a = b) :
    sort ds = sort es := by
  refine List.Perm.eq_of_pairwise ?_ (pairwise_sort ds) (pairwise_sort es)
    ((sort_perm ds).trans (h.trans (sort_perm es).symm))
  intro a b ha hb hab hba
  have ha := (sort_perm ds).mem_iff.mp ha
  have hb := h.mem_iff.mpr ((sort_perm es).mem_iff.mp hb)
  exact heq a ha b hb ((of_decide_eq_true hab).antisymm (of_decide_eq_true hba))

end Definition

/-! ## Requests -/

/-- The requests of a load: those that wait for a permit, those that hold one, and those that are
answered, in the order of their answers. -/
structure Requests where
  waiting : List String
  opened : List String
  answered : List String

namespace Requests

variable {limit : Nat} {names order : List String} {r r' : Requests}

/-- Any request that waits may get a free permit, and any open one may be answered next. -/
inductive Step (limit : Nat) : Requests → Requests → Prop
  | start {before after opened answered : List String} {n : String} (free : opened.length < limit) :
    Step limit ⟨before ++ n :: after, opened, answered⟩ ⟨before ++ after, n :: opened, answered⟩
  | answer {before after waiting answered : List String} {n : String} :
    Step limit ⟨waiting, before ++ n :: after, answered⟩
      ⟨waiting, before ++ after, answered ++ [n]⟩

/-- All requests for `names` may be answered in this order. -/
def Completes (limit : Nat) (names order : List String) : Prop :=
  Relation.ReflTransGen (Step limit) ⟨names, [], []⟩ ⟨[], [], order⟩

theorem Step.perm (h : Step limit r r') : (r'.waiting ++ r'.opened ++ r'.answered).Perm
    (r.waiting ++ r.opened ++ r.answered) := by
  cases h with
  | @start before after opened answered n free =>
    refine List.Perm.append_right _ ?_
    simp only [List.append_assoc, List.cons_append]
    refine List.Perm.append_left _ ?_
    exact List.perm_middle
  | @answer before after waiting answered n =>
    simp only [List.append_assoc, List.cons_append]
    refine List.Perm.append_left _ (List.Perm.append_left _ ?_)
    rw [← List.append_assoc]
    exact List.perm_append_singleton n (after ++ answered)

theorem completes_perm (h : Completes limit names order) : order.Perm names := by
  have hrun : ∀ r, Relation.ReflTransGen (Step limit) ⟨names, [], []⟩ r →
      (r.waiting ++ r.opened ++ r.answered).Perm names := by
    intro r hr
    induction hr with
    | refl => simp
    | tail _ hstep ih => exact hstep.perm.trans ih
  simpa using hrun _ h

/-- One permit is enough for every order. -/
theorem completes_of_perm (hlimit : 0 < limit) (h : order.Perm names) :
    Completes limit names order := by
  have hrun : ∀ (order names answered : List String), order.Perm names →
      Relation.ReflTransGen (Step limit) ⟨names, [], answered⟩ ⟨[], [], answered ++ order⟩ := by
    intro order
    induction order with
    | nil =>
      intro names answered h
      obtain rfl := h.nil_eq
      rw [List.append_nil]
    | cons n order ih =>
      intro names answered h
      obtain ⟨before, after, rfl⟩ := List.append_of_mem (h.subset List.mem_cons_self)
      have hrest : order.Perm (before ++ after) := (h.trans List.perm_middle).cons_inv
      have hlast := ih (before ++ after) (answered ++ [n]) hrest
      rw [List.append_assoc, List.singleton_append] at hlast
      have hanswer : Step limit ⟨before ++ after, [n], answered⟩
          ⟨before ++ after, [], answered ++ [n]⟩ := @Step.answer limit [] [] _ _ _
      exact .head (.start hlimit) (.head hanswer hlast)
  exact hrun order names [] h

/-- The orders of answers are the orders of the requests, whatever the number of permits. -/
theorem completes_iff (hlimit : 0 < limit) : Completes limit names order ↔ order.Perm names :=
  ⟨completes_perm, completes_of_perm hlimit⟩

end Requests

/-! ## Loading -/

namespace RegistrySource

open Requests

variable {s : RegistrySource} {server : Server} {names order order' : List String}
  {answer : String → SubjectVersion}

/-- The definition that the answer for a subject holds. -/
def definitionOf (answer : String → SubjectVersion) (name : String) : Definition :=
  ⟨(answer name).subject, (answer name).schema⟩

/-- Answers that name the same subject hold the same schema. -/
def Consistent (names : List String) (answer : String → SubjectVersion) : Prop :=
  ∀ m ∈ names, ∀ n ∈ names, (answer m).subject = (answer n).subject →
    (answer m).schema = (answer n).schema

instance : Decidable (Consistent names answer) :=
  inferInstanceAs (Decidable (∀ m ∈ names, ∀ n ∈ names, (answer m).subject = (answer n).subject →
    (answer m).schema = (answer n).schema))

theorem mapM_latest (h : ∀ n ∈ order, s.latest server n = .ok (answer n)) :
    order.mapM (s.latest server) = .ok (order.map answer) := by
  induction order with
  | nil => rfl
  | cons n order ih =>
    obtain ⟨hn, horder⟩ := List.forall_mem_cons.mp h
    rw [List.mapM_cons, hn, ih horder]
    rfl

/-- Where every request is answered, what is loaded depends on the order only. -/
theorem load_of_answers (hs : s.subjects server = .ok names)
    (hanswer : ∀ n ∈ names, s.latest server n = .ok (answer n)) (h : order.Perm names) :
    s.load server (fun _ => order) = .ok (Definition.sort (order.map (definitionOf answer))) := by
  have hload : s.load server (fun _ => order) = do
      return definitions (← order.mapM (s.latest server)) := by
    rw [load, hs]
    rfl
  have hdefinitions : definitions (order.map answer) =
      Definition.sort (order.map (definitionOf answer)) := by
    rw [definitions, List.map_map]
    rfl
  rw [hload, mapM_latest fun n hn => hanswer n (h.subset hn), ← hdefinitions]
  rfl

/-- If all orders load alike, then answers that name one subject hold one schema: of two such
answers, the first one to come stands first. -/
theorem consistent_of_load (hs : s.subjects server = .ok names)
    (hanswer : ∀ n ∈ names, s.latest server n = .ok (answer n))
    (h : ∀ order order', order.Perm names → order'.Perm names →
      s.load server (fun _ => order) = s.load server fun _ => order') :
    Consistent names answer := by
  intro m hm n hn hsubject
  by_contra hschema
  have hne : n ≠ m := fun he => hschema (by rw [he])
  have hn : n ∈ names.erase m := (List.mem_erase_of_ne hne).mpr hn
  have hfirst : (m :: n :: (names.erase m).erase n).Perm names :=
    ((List.perm_cons_erase hm).trans (.cons m (List.perm_cons_erase hn))).symm
  have hsecond : (n :: m :: (names.erase m).erase n).Perm names :=
    (List.Perm.swap m n _).trans hfirst
  have hload := h _ _ hfirst hsecond
  rw [load_of_answers hs hanswer hfirst, load_of_answers hs hanswer hsecond] at hload
  have hfilter := congrArg (List.filter (·.id = (answer m).subject)) (Except.ok.inj hload)
  rw [Definition.filter_sort, Definition.filter_sort] at hfilter
  simp only [List.map_cons, definitionOf, hsubject, decide_true, List.filter_cons_of_pos,
    List.cons.injEq, Definition.mk.injEq] at hfilter
  exact hschema hfilter.1.2

/-- What is loaded when all requests are answered: a definition for each subject asked for, sorted
by identifier. It is the same in all orders of the answers exactly if answers that name the same
subject hold the same schema. -/
theorem load_in_all_orders_iff (hlimit : 0 < s.concurrency) (hs : s.subjects server = .ok names)
    (hanswer : ∀ n ∈ names, s.latest server n = .ok (answer n)) :
    (∀ order, Completes s.concurrency names order → ∃ ds,
      s.load server (fun _ => order) = .ok ds ∧ ds.Perm (names.map (definitionOf answer)) ∧
        ds.Pairwise fun a b => a.id ≤ b.id) ∧
    ((∀ order order', Completes s.concurrency names order → Completes s.concurrency names order' →
      s.load server (fun _ => order) = s.load server fun _ => order') ↔
        Consistent names answer) := by
  refine ⟨fun order ho => ?_, fun h => ?_, fun h order order' ho ho' => ?_⟩
  · have hp := completes_perm ho
    refine ⟨_, load_of_answers hs hanswer hp, (Definition.sort_perm _).trans (hp.map _), ?_⟩
    exact (Definition.pairwise_sort _).imp of_decide_eq_true
  · exact consistent_of_load hs hanswer fun order order' ho ho' =>
      h order order' (completes_of_perm hlimit ho) (completes_of_perm hlimit ho')
  · have hp := completes_perm ho
    have hp' := completes_perm ho'
    rw [load_of_answers hs hanswer hp, load_of_answers hs hanswer hp']
    refine congrArg Except.ok (Definition.sort_congr ((hp.trans hp'.symm).map _) ?_)
    intro a ha b hb hid
    obtain ⟨m, hm, rfl⟩ := List.mem_map.mp ha
    obtain ⟨n, hn, rfl⟩ := List.mem_map.mp hb
    exact congrArg₂ Definition.mk hid (h m (hp.subset hm) n (hp.subset hn) hid)

/-- A registry with two subjects, for which it answers with two versions of one subject: the
second for the one, the first for the other. -/
def twoVersions (latest : String) : Server := fun u =>
  let version (n type : String) : Response := .answer 200
    ("\x7b\"subject\":\"x\",\"version\":" ++ n ++ ",\"id\":" ++ n ++ ",\"schema\":\"\\\"" ++ type ++
      "\\\"\"\x7d")
  if u.target = "/subjects" then .answer 200 "[\"a\",\"b\"]"
  else if u.target = "/subjects/a/versions/latest" then version "2" latest
  else if u.target = "/subjects/b/versions/latest" then version "1" "int"
  else .answer 404 "\x7b\x7d"

def twoAnswers (latest name : String) : SubjectVersion :=
  if name = "a" then ⟨"x", 2, 2, "\"" ++ latest ++ "\""⟩ else ⟨"x", 1, 1, "\"int\""⟩

def atRoot : RegistrySource :=
  ⟨⟨"http", some ⟨"", "", "registry", none⟩, false, .segments [""], none, none⟩, none,
    defaultConcurrency⟩

theorem twoVersions_subjects (latest : String) :
    atRoot.subjects (twoVersions latest) = .ok ["a", "b"] := by
  have htarget : atRoot.subjectsUrl.target = "/subjects" := by decide +kernel
  have hfetch : fetch (twoVersions latest) atRoot.subjectsUrl = .ok "[\"a\",\"b\"]" := by
    rw [fetch, twoVersions, if_pos htarget]
    rfl
  have hread : Json.readStrings "[\"a\",\"b\"]".toList = .ok ["a", "b"] :=
    ok_of_toOption (by decide +kernel)
  have hselect : atRoot.select ["a", "b"] = ["a", "b"] := by
    change (List.mergeSort ["a", "b"] _).eraseDups = _
    rw [List.mergeSort_of_pairwise (by decide)]
    decide
  simp only [subjects, hfetch, bind, Except.bind, hread, hselect]
  rfl

theorem twoVersions_latest {latest : String} (h : latest ∈ ["int", "string"]) :
    ∀ n ∈ ["a", "b"], atRoot.latest (twoVersions latest) n = .ok (twoAnswers latest n) := by
  have hall : ∀ t ∈ ["int", "string"], ∀ n ∈ ["a", "b"],
      (atRoot.latest (twoVersions t) n).toOption = some (twoAnswers t n) := by decide +kernel
  exact fun n hn => ok_of_toOption (hall latest h n hn)

theorem twoVersions_orders : Completes atRoot.concurrency ["a", "b"] ["a", "b"] ∧
    Completes atRoot.concurrency ["a", "b"] ["b", "a"] :=
  ⟨completes_of_perm (by decide) (.refl _), completes_of_perm (by decide) (by decide)⟩

/-- Two versions with one schema are loaded alike in both orders. -/
theorem load_in_all_orders_copies :
    (∃ ds, atRoot.load (twoVersions "int") (fun _ => ["b", "a"]) = .ok ds ∧
      ds.Perm [⟨"x", "\"int\""⟩, ⟨"x", "\"int\""⟩]) ∧
      atRoot.load (twoVersions "int") (fun _ => ["a", "b"]) =
        atRoot.load (twoVersions "int") fun _ => ["b", "a"] := by
  obtain ⟨hfirst, hsecond⟩ := twoVersions_orders
  obtain ⟨hload, hiff⟩ := load_in_all_orders_iff (s := atRoot) (by decide)
    (twoVersions_subjects "int") (twoVersions_latest (by decide))
  obtain ⟨ds, hds, hperm, -⟩ := hload _ hsecond
  exact ⟨⟨ds, hds, hperm⟩, hiff.mpr (by decide) _ _ hfirst hsecond⟩

/-- Two versions with different schemas come in the order of their answers. -/
theorem load_order_dependent :
    Completes atRoot.concurrency ["a", "b"] ["a", "b"] ∧
      Completes atRoot.concurrency ["a", "b"] ["b", "a"] ∧
      atRoot.load (twoVersions "string") (fun _ => ["a", "b"]) =
        .ok [⟨"x", "\"string\""⟩, ⟨"x", "\"int\""⟩] ∧
      atRoot.load (twoVersions "string") (fun _ => ["b", "a"]) =
        .ok [⟨"x", "\"int\""⟩, ⟨"x", "\"string\""⟩] := by
  obtain ⟨hfirst, hsecond⟩ := twoVersions_orders
  have hanswer : ∀ n ∈ ["a", "b"], atRoot.latest (twoVersions "string") n =
      .ok (twoAnswers "string" n) := twoVersions_latest (by decide)
  refine ⟨hfirst, hsecond, ?_, ?_⟩
  · rw [load_of_answers (twoVersions_subjects _) hanswer (completes_perm hfirst)]
    exact congrArg Except.ok (List.mergeSort_of_pairwise (by decide))
  · rw [load_of_answers (twoVersions_subjects _) hanswer (completes_perm hsecond)]
    exact congrArg Except.ok (List.mergeSort_of_pairwise (by decide))

end RegistrySource

end AvroLink
