import AvroLink.Proofs.FullName
import AvroLink.Schema.Parser

/-!
# Reasoning about walks

`Ends m sc Ok Err` says how the walk `m` ends when it starts in the scope `sc`: with a value and a
scope that satisfy `Ok`, or with an error and a scope that satisfy `Err`. There is one rule for each
way to build a walk; `Quiet m Q` is the case of a step that leaves the scope alone.
-/

namespace AvroLink

theorem ok_of_toOption {ε α : Type} {x : Except ε α} {a : α} (h : x.toOption = some a) :
    x = .ok a := by
  cases x with
  | error e => cases h
  | ok b =>
    cases h
    rfl

namespace Schema

variable {α β : Type}

namespace Scope

def enter (sc : Scope) (name : FullName) : Scope := ⟨sc.types, name :: sc.opened⟩

def close (sc : Scope) : Scope := ⟨sc.types, sc.opened.tail⟩

end Scope

namespace Walk

theorem bind_apply (m : Walk α) (k : α → Walk β) (sc : Scope) :
    (m >>= k) sc = match m sc with
      | (.ok a, sc') => k a sc'
      | (.error e, sc') => (.error e, sc') := by
  change (ExceptT.bindCont k (m sc).1) (m sc).2 = _
  rcases m sc with ⟨_ | _, _⟩ <;> rfl

theorem bind_ok {m : Walk α} {k : α → Walk β} {sc sc' : Scope} {a : α} (h : m sc = (.ok a, sc')) :
    (m >>= k) sc = k a sc' := by rw [bind_apply, h]

theorem bind_error {m : Walk α} {k : α → Walk β} {sc sc' : Scope} {e : ParseError}
    (h : m sc = (.error e, sc')) : (m >>= k) sc = (.error e, sc') := by rw [bind_apply, h]

theorem bind_eq_ok {m : Walk α} {k : α → Walk β} {sc sc' : Scope} {b : β} :
    (m >>= k) sc = (.ok b, sc') ↔ ∃ a sc₁, m sc = (.ok a, sc₁) ∧ k a sc₁ = (.ok b, sc') := by
  constructor
  · intro h
    rw [bind_apply] at h
    split at h
    · rename_i a sc₁ hm
      exact ⟨a, sc₁, hm, h⟩
    · cases h
  · rintro ⟨a, sc₁, hm, hk⟩
    rw [bind_ok hm, hk]

theorem get_bind (k : Scope → Walk β) (sc : Scope) : ((get : Walk Scope) >>= k) sc = k sc sc := rfl

theorem opening_apply (name : FullName) (m : Walk α) (sc : Scope) :
    opening name m sc = ((m (sc.enter name)).1, (m (sc.enter name)).2.close) := rfl

end Walk

/-- How a walk that starts in `sc` ends. -/
def Ends (m : Walk α) (sc : Scope) (Ok : α → Scope → Prop) (Err : ParseError → Scope → Prop) :
    Prop :=
  match m sc with
  | (.ok a, sc') => Ok a sc'
  | (.error e, sc') => Err e sc'

namespace Ends

variable {m : Walk α} {sc sc' : Scope} {Ok Ok' : α → Scope → Prop}
  {Err Err' : ParseError → Scope → Prop}

theorem ok (h : Ends m sc Ok Err) {a : α} (hm : m sc = (.ok a, sc')) : Ok a sc' := by
  simpa only [Ends, hm] using h

theorem mono (h : Ends m sc Ok Err) (hok : ∀ a sc', Ok a sc' → Ok' a sc')
    (herr : ∀ e sc', Err e sc' → Err' e sc') : Ends m sc Ok' Err' := by
  unfold Ends at h ⊢
  split at h
  · exact hok _ _ h
  · exact herr _ _ h

theorem pure {a : α} (h : Ok a sc) : Ends (Pure.pure a : Walk α) sc Ok Err := h

theorem fail {c : ParseError.Cause} {span : Option Span} (h : Err ⟨c, span⟩ sc) :
    Ends (Schema.fail c span : Walk α) sc Ok Err := h

theorem get {Ok : Scope → Scope → Prop} (h : Ok sc sc) :
    Ends (MonadState.get : Walk Scope) sc Ok Err := h

theorem bind {k : α → Walk β} {Ok' : β → Scope → Prop}
    (hm : Ends m sc (fun a sc' => Ends (k a) sc' Ok' Err) Err) : Ends (m >>= k) sc Ok' Err := by
  unfold Ends at hm
  split at hm
  · next h => unfold Ends; rw [Walk.bind_ok h]; exact hm
  · next h => unfold Ends; rw [Walk.bind_error h]; exact hm

theorem opening {name : FullName}
    (h : Ends m (sc.enter name) (fun a sc' => Ok a sc'.close) fun e sc' => Err e sc'.close) :
    Ends (Schema.opening name m) sc Ok Err := by
  unfold Ends at h ⊢
  rw [Walk.opening_apply]
  rcases hm : m (sc.enter name) with ⟨_ | _, _⟩ <;> rw [hm] at h <;> exact h

end Ends

/-- A step that leaves the scope as it is, with a value that satisfies `Q`. -/
def Quiet (m : Walk α) (Q : α → Prop) : Prop :=
  ∀ sc, Ends m sc (fun a sc' => sc' = sc ∧ Q a) (fun _ sc' => sc' = sc)

namespace Quiet

variable {m : Walk α} {Q : α → Prop}

theorem pure {a : α} (h : Q a) : Quiet (Pure.pure a : Walk α) Q := fun _ => .pure ⟨rfl, h⟩

theorem fail (c : ParseError.Cause) (span : Option Span) : Quiet (Schema.fail c span : Walk α) Q :=
  fun _ => .fail rfl

theorem bind {k : α → Walk β} {R : β → Prop} (hm : Quiet m Q) (hk : ∀ a, Q a → Quiet (k a) R) :
    Quiet (m >>= k) R := by
  intro sc
  refine .bind ((hm sc).mono ?_ fun _ _ h => h)
  rintro a sc' ⟨rfl, ha⟩
  exact hk a ha sc'

/-- Go on after a step that leaves the scope alone. -/
theorem andThen {k : α → Walk β} {sc : Scope} {Ok : β → Scope → Prop}
    {Err : ParseError → Scope → Prop} (hm : Quiet m Q) (herr : ∀ e, Err e sc)
    (hk : ∀ a, Q a → Ends (k a) sc Ok Err) : Ends (m >>= k) sc Ok Err := by
  refine .bind ((hm sc).mono ?_ ?_)
  · rintro a sc' ⟨rfl, ha⟩
    exact hk a ha
  · rintro e sc' rfl
    exact herr e

theorem ok_eq (h : Quiet m Q) {sc sc' : Scope} {a : α} (hm : m sc = (.ok a, sc')) :
    sc' = sc ∧ Q a := (h sc).ok hm

end Quiet

/-! ## Steps that only look -/

variable {locate : Locate} {ms : Json.Members} {enclosing : Option String}

theorem checkFresh_taken {name : FullName} {sc : Scope} (h : sc.Visible name) :
    checkFresh locate name sc = (.error ⟨.duplicateName name, locate name.name⟩, sc) := by
  rw [checkFresh, Walk.get_bind, if_pos h]
  rfl

theorem checkFresh_free {name : FullName} {sc : Scope} (h : ¬ sc.Visible name) :
    checkFresh locate name sc = (.ok (), sc) := by
  rw [checkFresh, Walk.get_bind, if_neg h]
  rfl

theorem required_quiet (what key : String) :
    Quiet (required ms what key) fun v => ms.get? key = some v := by
  unfold required
  split
  · exact .pure ‹_›
  · exact .fail _ _

theorem requiredString_quiet (what key : String) :
    Quiet (requiredString ms what key) fun s => ms.get? key = some (.string s) := by
  refine (required_quiet what key).bind fun v hv => ?_
  cases v with
  | string s => exact .pure hv
  | _ => exact .fail _ _

theorem resolveName_ok {text : String} {n : FullName} (h : FullName.resolve text enclosing = .ok n) :
    resolveName locate text enclosing = pure n := by
  rw [resolveName, h]

theorem resolveName_quiet (text : String) :
    Quiet (resolveName locate text enclosing) fun n => FullName.resolve text enclosing = .ok n := by
  unfold resolveName
  split
  · exact .pure ‹_›
  · exact .fail _ _

theorem namespaceOf_quiet : Quiet (namespaceOf ms enclosing) fun _ => True := by
  unfold namespaceOf
  split
  · exact .pure trivial
  · exact .pure trivial
  · exact .pure trivial
  · exact .fail _ _

theorem definedName_quiet : Quiet (definedName locate ms enclosing) FullName.Valid := by
  refine (requiredString_quiet _ _).bind fun name _ => ?_
  refine namespaceOf_quiet.bind fun space _ => ?_
  intro sc
  exact (resolveName_quiet name sc).mono (fun _ _ h => ⟨h.1, FullName.resolve_valid h.2⟩)
    fun _ _ h => h

end Schema

end AvroLink
