/-!
# Traced results

A result together with the list of what happened on the way to it, in order.
-/

namespace AddressBook

structure Traced (ε α : Type) where
  value : α
  trace : List ε
deriving DecidableEq, Repr

namespace Traced

variable {ε α β : Type}

def map (f : α → β) (t : Traced ε α) : Traced ε β :=
  ⟨f t.value, t.trace⟩

/-- The results in order; their traces follow one another. -/
def collect (ts : List (Traced ε α)) : Traced ε (List α) :=
  ⟨ts.map (·.value), ts.flatMap (·.trace)⟩

@[simp] theorem value_map (f : α → β) (t : Traced ε α) :
    (t.map f).value = f t.value := rfl

@[simp] theorem trace_map (f : α → β) (t : Traced ε α) :
    (t.map f).trace = t.trace := rfl

@[simp] theorem value_collect (ts : List (Traced ε α)) :
    (collect ts).value = ts.map (·.value) := rfl

@[simp] theorem trace_collect (ts : List (Traced ε α)) :
    (collect ts).trace = ts.flatMap (·.trace) := rfl

theorem collect_append (ts us : List (Traced ε α)) :
    collect (ts ++ us) =
      ⟨(collect ts).value ++ (collect us).value,
        (collect ts).trace ++ (collect us).trace⟩ := by
  simp [collect]

theorem collect_map_eq {γ : Type} {as : List γ} {f : γ → Traced ε α}
    {value : γ → α} {trace : γ → List ε}
    (hf : ∀ a ∈ as, f a = ⟨value a, trace a⟩) :
    collect (as.map f) = ⟨as.map value, as.flatMap trace⟩ := by
  rw [List.map_congr_left hf, collect, List.map_map, List.flatMap_map]
  rfl

end Traced
end AddressBook
