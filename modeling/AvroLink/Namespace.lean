import AvroLink.Schema.Basic

/-!
# Namespaces

The named types known so far, in the order in which they were registered. A name
is registered once and holds the type it names. Two namespaces are the same when
they hold the same types, whatever the order.
-/

namespace AvroLink

structure Namespace where
  entries : List (FullName × Schema)
  nodup : (entries.map Prod.fst).Nodup
  named : ∀ e ∈ entries, e.2.name? = some e.1

inductive RegisterError where
  | alreadyDefined (name : FullName)
  | unnamed (kind : String)
  deriving DecidableEq, Repr

def RegisterError.message : RegisterError → String
  | .alreadyDefined n => "`" ++ n.text ++ "` is already defined"
  | .unnamed k => "only record, enum and fixed schemas can be registered, got " ++ k

namespace Namespace

def empty : Namespace := ⟨[], List.nodup_nil, by simp⟩

instance : Inhabited Namespace := ⟨empty⟩

/-- Registered names in order. -/
def names (ns : Namespace) : List FullName := ns.entries.map Prod.fst

def lookup (ns : Namespace) (name : FullName) : Option Schema := ns.entries.lookup name

instance : Membership FullName Namespace := ⟨fun ns n => n ∈ ns.names⟩

instance (n : FullName) (ns : Namespace) : Decidable (n ∈ ns) :=
  inferInstanceAs (Decidable (n ∈ ns.names))

def size (ns : Namespace) : Nat := ns.entries.length

/-- Add a type under a name that is not yet known. -/
def insert (ns : Namespace) (name : FullName) (s : Schema) (fresh : name ∉ ns)
    (h : s.name? = some name) : Namespace where
  entries := ns.entries ++ [(name, s)]
  nodup := by
    have : name ∉ ns.entries.map Prod.fst := fresh
    have hd := ns.nodup
    rw [List.map_append, List.nodup_append]
    refine ⟨hd, by simp, ?_⟩
    intro a ha b hb hab
    simp at hb
    subst hb
    subst hab
    exact this ha
  named := by
    intro e he
    rcases List.mem_append.mp he with he | he
    · exact ns.named e he
    · simp at he
      subst he
      exact h

/-- Add a named type at the end. -/
def register (ns : Namespace) (s : Schema) : Except RegisterError Namespace :=
  match h : s.name? with
  | none => .error (.unnamed s.kind)
  | some name =>
    if fresh : name ∈ ns then .error (.alreadyDefined name)
    else .ok (ns.insert name s fresh h)

theorem register_eq {ns : Namespace} {s : Schema} {name : FullName} (h : s.name? = some name) :
    ns.register s =
      if fresh : name ∈ ns then .error (.alreadyDefined name)
      else .ok (ns.insert name s fresh h) := by
  unfold register
  split
  · rename_i hn
    cases hn.symm.trans h
  · rename_i m hm
    cases hm.symm.trans h
    rfl

/-- Whether two namespaces hold the same types. -/
def same (a b : Namespace) : Bool :=
  a.size == b.size && a.entries.all fun (n, s) =>
    match b.lookup n with
    | some t => s.same t
    | none => false

@[simp] theorem names_empty : empty.names = [] := rfl

theorem names_nodup (ns : Namespace) : ns.names.Nodup := ns.nodup

end Namespace

end AvroLink
