import Pseudonym.Extraction.Declaration
import Pseudonym.Proofs.Python.Spelling

/-!
# Ids with numbers

An id that would not be unique gets a number behind the sign `#`. Names of programs do not hold that
sign, so an id ends in a number only if it was numbered, and the counter is always ahead of the
numbers in use (`Numbered`): the next numbered id is new. Ids of things outside the program start
with the sign `<`, ids of scopes and symbols in it do not (`Inside`).
-/

namespace Pseudonym

open Python

/-- The number at the end of an id is below a bound. -/
def Numbered (bound : Nat) (id : String) : Prop :=
  ∀ (base : String) (k : Nat), id = s!"{base}#{k}" → k < bound

theorem Numbered.mono {n m : Nat} {id : String} (h : Numbered n id) (hnm : n ≤ m) :
    Numbered m id :=
  fun base k hid => Nat.lt_of_lt_of_le (h base k hid) hnm

/-- The characters of a numbered id. -/
theorem toList_numbered (base : String) (k : Nat) :
    s!"{base}#{k}".toList = base.toList ++ '#' :: Nat.toDigits 10 k := by
  have hk : (toString k).toList = Nat.toDigits 10 k := by
    rw [Nat.toString_eq_ofList_toDigits, String.toList_ofList]
  change ((base ++ "#") ++ toString k).toList = _
  rw [String.toList_append, String.toList_append, hk]
  simp

theorem isDigit_of_mem_toDigits {k : Nat} {c : Char} (h : c ∈ Nat.toDigits 10 k) :
    c.isDigit = true :=
  Nat.isDigit_of_mem_toDigits (by decide) (by decide) h

/-- An id whose end is no number. -/
theorem Numbered.of_end {n : Nat} {id : String} {front back : List Char}
    (hid : id.toList = front ++ back) (hsign : '#' ∉ back)
    (hother : ∃ c ∈ back, c.isDigit = false) : Numbered n id := by
  intro base k heq
  exfalso
  rw [heq, toList_numbered] at hid
  rcases List.append_eq_append_iff.1 hid with ⟨mid, -, hback⟩ | ⟨mid, -, hback⟩
  · cases mid with
    | nil => exact hsign (by rw [List.nil_append] at hback; rw [← hback]; exact List.mem_cons_self)
    | cons c mid =>
        -- The end lies behind the sign, among the digits.
        obtain ⟨c, hc, hdigit⟩ := hother
        rw [List.cons_append, List.cons.injEq] at hback
        have hmem : c ∈ Nat.toDigits 10 k := by
          rw [hback.2]
          exact List.mem_append_right _ hc
        rw [isDigit_of_mem_toDigits hmem] at hdigit
        cases hdigit
  · exact hsign (by rw [hback]; simp)

/-- A plain name ends in no number. -/
theorem Numbered.of_plain {n : Nat} {name : String} (h : Plain name) : Numbered n name := by
  intro base k heq
  refine absurd ?_ h.1
  rw [heq, toList_numbered]
  simp

/-- A new number is below the next one. -/
theorem Numbered.next (base : String) (n : Nat) : Numbered (n + 1) s!"{base}#{n}" := by
  intro base' k heq
  have hlists := congrArg String.toList heq
  rw [toList_numbered, toList_numbered] at hlists
  have hno : ∀ {j : Nat}, '#' ∉ Nat.toDigits 10 j := fun hmem => by
    have := isDigit_of_mem_toDigits hmem
    simp at this
  -- The last sign is the one before the number, on both sides.
  have hdigits : Nat.toDigits 10 n = Nat.toDigits 10 k := by
    rcases List.append_eq_append_iff.1 hlists with ⟨mid, -, htail⟩ | ⟨mid, -, htail⟩
    · cases mid with
      | nil => simpa using htail
      | cons c mid =>
          rw [List.cons_append, List.cons.injEq] at htail
          exact absurd (by rw [htail.2]; simp) (hno (j := n))
    · cases mid with
      | nil => simpa using htail.symm
      | cons c mid =>
          rw [List.cons_append, List.cons.injEq] at htail
          exact absurd (by rw [htail.2]; simp) (hno (j := k))
  have hn : n = k := by
    rw [← Nat.ofDigitChars_ten_toDigits (n := n), hdigits, Nat.ofDigitChars_ten_toDigits]
  rw [hn]
  exact Nat.lt_succ_self k

/-- A number that is not in use yet makes a new id. -/
theorem Numbered.ne {n : Nat} {id base : String} (h : Numbered n id) : id ≠ s!"{base}#{n}" :=
  fun heq => Nat.lt_irrefl n (h base n heq)

/-! ## Ids inside the program -/

/-- An id of something in the program. -/
def Inside (id : String) : Prop := id.toList.head? ≠ some '<'

instance : DecidablePred Inside := fun id => inferInstanceAs (Decidable (id.toList.head? ≠ some '<'))

theorem Inside.of_plain {name : String} (h : Plain name) : Inside name :=
  fun hhead => h.2 (List.mem_of_mem_head? hhead)

theorem Inside.append {a b : String} (ha : Inside a) (hb : Inside b) : Inside (a ++ b) := by
  unfold Inside at *
  rw [String.toList_append, List.head?_append]
  cases h : a.toList.head? with
  | none => simpa using hb
  | some c => simpa [h] using ha

/-! ## The ids of an extraction -/

theorem inside_member {scope : ScopeId} (h : Inside scope) (name : String) :
    Inside s!"{scope}::{name}" := by
  change Inside ((scope ++ "::") ++ name)
  rw [String.append_assoc]
  exact h.append (by simp [Inside])

theorem inside_numbered {id : String} (h : Inside id) (k : Nat) : Inside s!"{id}#{k}" := by
  change Inside ((id ++ "#") ++ toString k)
  rw [String.append_assoc]
  exact h.append (by simp [Inside])

theorem inside_nested {parent : ScopeId} (h : Inside parent) (name : String) :
    Inside s!"{parent}:{name}" ∧ Inside s!"{parent}.{name}" := by
  constructor
  · change Inside ((parent ++ ":") ++ name)
    rw [String.append_assoc]
    exact h.append (by simp [Inside])
  · change Inside ((parent ++ ".") ++ name)
    rw [String.append_assoc]
    exact h.append (by simp [Inside])

theorem inside_anonymous {parent : ScopeId} (h : Inside parent) (label : Label) (k : Nat) :
    Inside s!"{parent}.<{Extraction.anonymousWord label}{k}>" := by
  change Inside ((((parent ++ ".<") ++ Extraction.anonymousWord label) ++ toString k) ++ ">")
  simp only [String.append_assoc]
  exact h.append (by simp [Inside])

theorem numbered_member {n : Nat} (scope : ScopeId) {name : String} (h : Plain name) :
    Numbered n s!"{scope}::{name}" := by
  have hid : s!"{scope}::{name}".toList = scope.toList ++ (':' :: ':' :: name.toList) := by
    change ((scope ++ "::") ++ name).toList = _
    rw [String.toList_append, String.toList_append]
    simp
  exact .of_end hid (by simpa using h.1) ⟨':', by simp, by decide⟩

theorem numbered_nested {n : Nat} (parent : ScopeId) {name : String} (h : Plain name) :
    Numbered n s!"{parent}:{name}" ∧ Numbered n s!"{parent}.{name}" := by
  have hcolon : s!"{parent}:{name}".toList = parent.toList ++ (':' :: name.toList) := by
    change ((parent ++ ":") ++ name).toList = _
    rw [String.toList_append, String.toList_append]
    simp
  have hpoint : s!"{parent}.{name}".toList = parent.toList ++ ('.' :: name.toList) := by
    change ((parent ++ ".") ++ name).toList = _
    rw [String.toList_append, String.toList_append]
    simp
  exact ⟨.of_end hcolon (by simpa using h.1) ⟨':', by simp, by decide⟩,
    .of_end hpoint (by simpa using h.1) ⟨'.', by simp, by decide⟩⟩

theorem numbered_anonymous {n : Nat} (parent : ScopeId) (label : Label) (k : Nat) :
    Numbered n s!"{parent}.<{Extraction.anonymousWord label}{k}>" := by
  have hid : s!"{parent}.<{Extraction.anonymousWord label}{k}>".toList = parent.toList ++
      ('.' :: '<' :: (Extraction.anonymousWord label).toList ++ Nat.toDigits 10 k ++ ['>']) := by
    have hk : (toString k).toList = Nat.toDigits 10 k := by
      rw [Nat.toString_eq_ofList_toDigits, String.toList_ofList]
    change ((((parent ++ ".<") ++ Extraction.anonymousWord label) ++ toString k) ++ ">").toList = _
    simp only [String.toList_append, hk]
    simp
  have hword : '#' ∉ (Extraction.anonymousWord label).toList := by
    unfold Extraction.anonymousWord
    split <;> decide
  have hdigits : '#' ∉ Nat.toDigits 10 k := fun hmem => by
    have := isDigit_of_mem_toDigits hmem
    simp at this
  exact .of_end hid (by simp [hword, hdigits]) ⟨'<', by simp, by decide⟩

end Pseudonym
