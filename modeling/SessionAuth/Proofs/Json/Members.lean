import SessionAuth.Json.Members

/-!
# What has been read of an object

A member that was read stood once in the object, and its value was of the right type.
-/

namespace SessionAuth
namespace Json

namespace Node

theorem nullable?_eq_some {α : Type} {read : Node → Option α} {n : Node} {a : Option α} :
    nullable? read n = some a ↔
      (n = .null ∧ a = none) ∨ (n ≠ .null ∧ ∃ x, read n = some x ∧ a = some x) := by
  have hmap : ∀ m, (read m).map some = some a ↔ ∃ x, read m = some x ∧ a = some x := by
    intro m
    rw [Option.map_eq_some_iff]
    exact exists_congr (fun x => and_congr_right (fun _ => eq_comm))
  cases n with
  | null => simp [nullable?, eq_comm]
  | _ => simp [nullable?, hmap]

end Node

namespace Members

variable {α : Type} {ms : Members} {name : String}

theorem required?_eq_some {read : Node → Option α} {a : α} :
    ms.required? read name = some a ↔ ∃ n, ms.single? name = some (some n) ∧ read n = some a := by
  unfold required?
  constructor
  · intro h
    rcases Option.bind_eq_some_iff.mp h with ⟨member, hmember, hread⟩
    rcases Option.bind_eq_some_iff.mp hread with ⟨n, rfl, hn⟩
    exact ⟨n, hmember, hn⟩
  · intro h
    rcases h with ⟨n, hmember, hn⟩
    rw [hmember]
    exact hn

theorem standing?_eq_some {standard : α} {read : Node → Option α} {a : α} :
    ms.standing? standard read name = some a ↔
      (ms.single? name = some none ∧ a = standard) ∨
        ∃ n, ms.single? name = some (some n) ∧ read n = some a := by
  unfold standing?
  cases hmember : ms.single? name with
  | none => simp
  | some member =>
      cases member with
      | none => simp [eq_comm]
      | some n => simp

theorem optional?_eq_some {read : Node → Option α} {a : Option α} :
    ms.optional? read name = some a ↔
      ((ms.single? name = some none ∨ ms.single? name = some (some .null)) ∧ a = none) ∨
        ∃ n x, ms.single? name = some (some n) ∧ n ≠ .null ∧ read n = some x ∧ a = some x := by
  unfold optional?
  rw [standing?_eq_some]
  constructor
  · intro h
    rcases h with ⟨hnone, ha⟩ | ⟨n, hmember, hn⟩
    · exact Or.inl ⟨Or.inl hnone, ha⟩
    · rcases Node.nullable?_eq_some.mp hn with ⟨rfl, ha⟩ | ⟨hne, x, hx, ha⟩
      · exact Or.inl ⟨Or.inr hmember, ha⟩
      · exact Or.inr ⟨n, x, hmember, hne, hx, ha⟩
  · intro h
    rcases h with ⟨hnone | hnull, ha⟩ | ⟨n, x, hmember, hne, hx, ha⟩
    · exact Or.inl ⟨hnone, ha⟩
    · exact Or.inr ⟨.null, hnull, Node.nullable?_eq_some.mpr (Or.inl ⟨rfl, ha⟩)⟩
    · exact Or.inr ⟨n, hmember, Node.nullable?_eq_some.mpr (Or.inr ⟨hne, x, hx, ha⟩)⟩

end Members

end Json
end SessionAuth
