import Mathlib.Data.Finset.Basic
import Mathlib.Data.Finset.Dedup

/-! A set followed from afar: it is told once as a whole and from then on by
what is added and removed. -/
namespace Following

variable {α : Type*} [DecidableEq α]

inductive Notice (α : Type*) where
  | whole (members : List α)
  | added (member : α)
  | removed (member : α)
deriving DecidableEq

def Notice.apply (known : Finset α) : Notice α → Finset α
  | whole members => members.toFinset
  | added member => insert member known
  | removed member => known.erase member

/-- What is added was not known yet and what is removed was. -/
def Notice.Fits (known : Finset α) : Notice α → Prop
  | whole _ => True
  | added member => member ∉ known
  | removed member => member ∈ known

instance (known : Finset α) : (notice : Notice α) → Decidable (notice.Fits known)
  | .whole _ => isTrue trivial
  | .added member => inferInstanceAs (Decidable (member ∉ known))
  | .removed member => inferInstanceAs (Decidable (member ∈ known))

/-- The set somebody knows of who has read these notices. -/
def follow (known : Finset α) (notices : List (Notice α)) : Finset α :=
  notices.foldl Notice.apply known

/-- Every notice fits what is known when it comes. -/
def Exact (known : Finset α) : List (Notice α) → Prop
  | [] => True
  | notice :: notices => notice.Fits known ∧ Exact (notice.apply known) notices

instance decidableExact (known : Finset α) : (notices : List (Notice α)) → Decidable (Exact known notices)
  | [] => isTrue trivial
  | notice :: notices =>
    have := decidableExact (notice.apply known) notices
    inferInstanceAs (Decidable (notice.Fits known ∧ Exact (notice.apply known) notices))

theorem follow_append (known : Finset α) (first second : List (Notice α)) :
    follow known (first ++ second) = follow (follow known first) second :=
  List.foldl_append

theorem exact_append {known : Finset α} {first second : List (Notice α)} :
    Exact known (first ++ second) ↔ Exact known first ∧ Exact (follow known first) second := by
  induction first generalizing known with
  | nil => simp [Exact, follow]
  | cons notice first ih => rw [List.cons_append, Exact, Exact, ih, and_assoc]; rfl

theorem exact_singleton {known : Finset α} {notice : Notice α} :
    Exact known [notice] ↔ notice.Fits known := by
  simp [Exact]

/-- The whole set makes no demands on what was known. -/
theorem exact_whole (known : Finset α) (members : List α) : Exact known [.whole members] :=
  exact_singleton.mpr trivial

end Following
