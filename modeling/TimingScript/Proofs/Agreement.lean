import Mathlib.Data.List.Forall2
import TimingScript.Proofs.Growth

/-! # Agreement — two compilations side by side

    Two texts, or one text for two clocks, are compiled side by side, and
    after each line the results are compared.  Results agree if both are
    the same error, or both are values that are related in a given way.

    All that one line hands to the next is which loops are open.  So it is
    enough that lines agree one by one, whatever loops are open in front of
    them, and that they leave the same loops open: then the compilations
    agree (`compile_agrees`). -/

namespace TimingScript

open Source (LineNumber)

/-- Both results are the same error, or both are values and these are
    related. -/
inductive Agrees {ε α β : Type} (R : α → β → Prop) :
    Except ε α → Except ε β → Prop where
  | error (e : ε) : Agrees R (.error e) (.error e)
  | ok {a : α} {b : β} : R a b → Agrees R (.ok a) (.ok b)

namespace Agrees

variable {ε α β γ δ : Type} {R : α → β → Prop} {S : γ → δ → Prop}

/-- A result agrees with itself if its value is related to itself. -/
theorem refl {R : α → α → Prop} (h : ∀ a, R a a) (x : Except ε α) :
    Agrees R x x := by
  cases x with
  | error e => exact .error e
  | ok a => exact .ok (h a)

/-- A relation may be replaced by a weaker one. -/
theorem imp {R' : α → β → Prop} {x : Except ε α} {y : Except ε β}
    (h : Agrees R x y) (himp : ∀ a b, R a b → R' a b) : Agrees R' x y := by
  cases h with
  | error e => exact .error e
  | ok hab => exact .ok (himp _ _ hab)

/-- What is done alike with values that are related keeps the agreement. -/
theorem map {x : Except ε α} {y : Except ε β} {f : α → γ} {g : β → δ}
    (h : Agrees R x y) (hfg : ∀ a b, R a b → S (f a) (g b)) :
    Agrees S (x.map f) (y.map g) := by
  cases h with
  | error e => exact .error e
  | ok hab => exact .ok (hfg _ _ hab)

end Agrees

namespace Yield

/-- Related yields, behind which the same loops are open. -/
def InStep (R : Yield → Yield → Prop) (p q : Yield × LoopStack) : Prop :=
  R p.1 q.1 ∧ p.2 = q.2

/-- Lines that agree one by one agree as a whole. -/
theorem ofLines_agrees {clock other : Clock} {R : Yield → Yield → Prop}
    {us vs : List (LineNumber × String)}
    (h : List.Forall₂ (fun u v => ∀ loops,
      Agrees (InStep R) (ofLine clock loops u.1 u.2)
        (ofLine other loops v.1 v.2)) us vs) :
    ∀ loops,
      Agrees (fun p q => List.Forall₂ R p.1 q.1 ∧ p.2 = q.2)
        (ofLines clock loops us) (ofLines other loops vs) := by
  induction h with
  | nil => intro loops; exact .ok ⟨.nil, rfl⟩
  | @cons u v us vs hfirst _ ih =>
      intro loops
      obtain ⟨line, source⟩ := u
      obtain ⟨line', source'⟩ := v
      have hline := hfirst loops
      generalize hy : ofLine clock loops line source = x at hline
      generalize hz : ofLine other loops line' source' = x' at hline
      cases hline with
      | error e =>
          rw [ofLines_cons_of_error hy, ofLines_cons_of_error hz]
          exact .error e
      | @ok p q hpq =>
          obtain ⟨y, next⟩ := p
          obtain ⟨z, next'⟩ := q
          obtain ⟨hyz, rfl⟩ : R y z ∧ next = next' := hpq
          -- the same loops are open behind the two, so the rests agree
          rw [ofLines_cons_of_ok hy, ofLines_cons_of_ok hz]
          refine (ih next).map fun a b hab => ?_
          exact ⟨.cons hyz hab.1, hab.2⟩

end Yield

/-- Lines that are related one by one are so with their numbers, which are
    the same. -/
theorem Source.forall₂_numberedLines {R : String → String → Prop}
    {text text' : String} (h : List.Forall₂ R (lines text) (lines text')) :
    List.Forall₂ (fun u v => u.1 = v.1 ∧ R u.2 v.2)
      (numberedLines text) (numberedLines text') := by
  rw [numberedLines, numberedLines]
  generalize lines text = us, lines text' = vs, 0 = n at h ⊢
  induction h generalizing n with
  | nil => exact .nil
  | cons hfirst _ ih => exact .cons ⟨rfl, hfirst⟩ (ih (n + 1))

/-- **Compilations agree if their lines do.**  Where each line agrees with
    its counterpart, whatever loops are open, both texts fail with the same
    error, or both are programs made of related yields. -/
theorem compile_agrees {clock other : Clock} {text text' : String}
    {R : Yield → Yield → Prop}
    (h : List.Forall₂ (fun u v => ∀ loops,
      Agrees (Yield.InStep R) (Yield.ofLine clock loops u.1 u.2)
        (Yield.ofLine other loops v.1 v.2))
      (Source.numberedLines text) (Source.numberedLines text')) :
    Agrees (fun p q => ∃ ys zs, List.Forall₂ R ys zs ∧
        p = (Yield.join ys).program ∧ q = (Yield.join zs).program)
      (compile clock text) (compile other text') := by
  have hlines := Yield.ofLines_agrees h .empty
  generalize hy : Yield.ofLines clock .empty (Source.numberedLines text) = x
    at hlines
  generalize hz : Yield.ofLines other .empty (Source.numberedLines text') = x'
    at hlines
  cases hlines with
  | error e =>
      rw [compile_of_error hy, compile_of_error hz]
      exact .error e
  | @ok p q hpq =>
      obtain ⟨ys, last⟩ := p
      obtain ⟨zs, last'⟩ := q
      obtain ⟨hrel, rfl⟩ : List.Forall₂ R ys zs ∧ last = last' := hpq
      -- a loop that is left open is missed in both texts or in neither
      cases hl : last.innermost? with
      | some line =>
          rw [compile_of_open hy hl, compile_of_open hz hl]
          exact .error _
      | none =>
          rw [compile_of_closed hy hl, compile_of_closed hz hl]
          exact .ok ⟨ys, zs, hrel, rfl, rfl⟩

/-- Compilations are the same if lines yield the same one by one. -/
theorem compile_congr {clock other : Clock} {text text' : String}
    (h : List.Forall₂ (fun u v => ∀ loops,
      Yield.ofLine clock loops u.1 u.2 = Yield.ofLine other loops v.1 v.2)
      (Source.numberedLines text) (Source.numberedLines text')) :
    compile clock text = compile other text' := by
  have hlines : List.Forall₂ (fun u v => ∀ loops,
      Agrees (Yield.InStep Eq) (Yield.ofLine clock loops u.1 u.2)
        (Yield.ofLine other loops v.1 v.2))
      (Source.numberedLines text) (Source.numberedLines text') := by
    refine h.imp fun u v hline loops => ?_
    rw [hline loops]
    exact .refl (fun _ => ⟨rfl, rfl⟩) _
  have hagrees := compile_agrees hlines
  generalize compile clock text = x at hagrees
  generalize compile other text' = y at hagrees
  cases hagrees with
  | error e => rfl
  | ok hpq =>
      obtain ⟨ys, zs, hrel, rfl, rfl⟩ := hpq
      rw [List.forall₂_eq_eq_eq] at hrel
      rw [hrel]

end TimingScript
