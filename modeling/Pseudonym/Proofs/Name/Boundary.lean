import Pseudonym.Proofs.Name.Accessor

/-!
# Where a name is cut

The cut reads a name once. It keeps the token in progress and the category read last, and moves a
boundary back by one character when a small letter follows capitals. What comes out needs no such
state: whether a name is cut in front of a character is told by the categories of that character
and of its neighbours (`Parted`, `split_boundaries`).

`InProgress` links the two. It says what a token in progress can look like: no boundary lies inside
it (`InProgress.not_boundary`), but for the one in front of its last capital where a small letter
comes next, and there the cut moves back.
-/

namespace Pseudonym.Name

open Text

/-! ## The rule -/

/-- Whether a name is cut between two neighbours with `next` behind them: where the category changes,
except for a small letter behind a capital, and between two capitals if a small letter comes next. -/
def Parted (b c : Char) (next : Option Char) : Prop :=
  category b ≠ category c ∧ ¬ (category b = .upperLetter ∧ category c = .lowerLetter) ∨
    category b = .upperLetter ∧ category c = .upperLetter ∧ ∃ d ∈ next, category d = .lowerLetter

/-- Whether characters are cut in front of a place. -/
def Boundary (cs : List Char) (i : Nat) : Prop :=
  ∃ b c, cs[i - 1]? = some b ∧ cs[i]? = some c ∧ Parted b c cs[i + 1]?

/-- Whether one of several tokens ends at a place of the text that they make together. -/
def CutAt (tokens : List String) (i : Nat) : Prop :=
  ∃ front behind, tokens = front ++ behind ∧ (String.join front).length = i

/-- A token: characters of one category, or a capital with small letters behind it. -/
def IsToken (cs : List Char) : Prop :=
  cs ≠ [] ∧ ((∃ kind, ∀ c ∈ cs, category c = kind) ∨
    ∃ capital small, cs = capital :: small ∧ category capital = .upperLetter ∧
      ∀ s ∈ small, category s = .lowerLetter)

/-! ## Places in joined texts -/

theorem cutAt_cons {t : String} {ts : List String} {i : Nat} (hi : 0 < i) :
    CutAt (t :: ts) i ↔ t.length ≤ i ∧ CutAt ts (i - t.length) := by
  constructor
  · intro h
    obtain ⟨front, behind, heq, hlength⟩ := h
    cases front with
    | nil =>
        simp at hlength
        omega
    | cons u front =>
        obtain ⟨rfl, rfl⟩ := List.cons.inj heq
        rw [String.join_cons, String.length_append] at hlength
        exact ⟨by omega, front, behind, rfl, by omega⟩
  · intro h
    obtain ⟨hle, front, behind, rfl, hlength⟩ := h
    refine ⟨t :: front, behind, rfl, ?_⟩
    rw [String.join_cons, String.length_append]
    omega

/-- Characters in front do not matter from the second character on. -/
theorem boundary_append (cs ds : List Char) {i : Nat} (hi : 0 < i) :
    Boundary (cs ++ ds) (cs.length + i) ↔ Boundary ds i := by
  have hbefore : cs.length + i - 1 = cs.length + (i - 1) := by omega
  have hplace (j : Nat) : (cs ++ ds)[cs.length + j]? = ds[j]? := by
    rw [List.getElem?_append_right (Nat.le_add_right _ j), Nat.add_sub_cancel_left]
  simp only [Boundary, hbefore, hplace, Nat.add_assoc]

/-- A boundary between two characters. -/
theorem boundary_of_parted {front rest : List Char} {b c : Char} (h : Parted b c rest.head?) :
    Boundary (front ++ [b] ++ c :: rest) (front ++ [b]).length := by
  refine ⟨b, c, by simp, by simp, ?_⟩
  rw [List.getElem?_append_right (Nat.le_add_right _ 1), Nat.add_sub_cancel_left,
    List.getElem?_cons_succ, ← List.head?_eq_getElem?]
  exact h

/-- A token is cut off where no boundary lies inside it and one lies behind it, and what follows is
cut at its boundaries. -/
theorem cutAt_token {t cs : List Char} {ts : List String}
    (hinside : ∀ i, 0 < i → i < t.length → ¬ Boundary (t ++ cs) i)
    (hbehind : Boundary (t ++ cs) t.length)
    (hrest : ∀ i, 0 < i → i < cs.length → (CutAt ts i ↔ Boundary cs i)) {i : Nat} (hi : 0 < i)
    (hlt : i < (t ++ cs).length) :
    CutAt (String.ofList t :: ts) i ↔ Boundary (t ++ cs) i := by
  rw [cutAt_cons hi, String.length_ofList]
  rw [List.length_append] at hlt
  rcases Nat.lt_trichotomy i t.length with hlow | rfl | hhigh
  · have hnot := hinside i hi hlow
    simp only [hnot, iff_false, not_and]
    omega
  · have hstart : CutAt ts 0 := ⟨[], ts, rfl, rfl⟩
    simp [hbehind, hstart]
  · obtain ⟨j, rfl⟩ := Nat.exists_eq_add_of_lt hhigh
    rw [Nat.add_assoc, boundary_append t cs (Nat.succ_pos j), Nat.add_sub_cancel_left,
      hrest (j + 1) (Nat.succ_pos j) (by omega)]
    simp

/-! ## The token in progress -/

/-- A token in progress, backwards, with the category read last. -/
inductive InProgress : (token : List Char) → (kind : Category) → Prop
  | run {token : List Char} {kind : Category} : token ≠ [] → (∀ c ∈ token, category c = kind) →
      InProgress token kind
  | capital {small : List Char} {c : Char} : small ≠ [] →
      (∀ s ∈ small, category s = .lowerLetter) → category c = .upperLetter →
      InProgress (small ++ [c]) .lowerLetter

namespace InProgress

variable {token rest : List Char} {kind : Category}

theorem start (c : Char) : InProgress [c] (category c) := .run (by simp) (by simp)

/-- A small letter behind a capital. -/
theorem pair {c last : Char} (hlast : category last = .upperLetter)
    (hc : category c = .lowerLetter) : InProgress [c, last] (category c) :=
  hc ▸ .capital (List.cons_ne_nil c []) (by simpa using hc) hlast

/-- One more character of the category read last. -/
theorem cons {c : Char} (h : InProgress token kind) (hc : category c = kind) :
    InProgress (c :: token) kind := by
  cases h with
  | run hne hrun => exact .run (by simp) (List.forall_mem_cons.2 ⟨hc, hrun⟩)
  | capital hne hsmall hcapital =>
      exact .capital (List.cons_ne_nil c _) (List.forall_mem_cons.2 ⟨hc, hsmall⟩) hcapital

/-- Behind a capital there are only capitals so far. -/
theorem all_upper (h : InProgress token .upperLetter) : ∀ c ∈ token, category c = .upperLetter := by
  cases h with
  | run hne hrun => exact hrun

/-- Capitals without the last one. -/
theorem of_cons {last first : Char} {more : List Char}
    (h : InProgress (last :: first :: more) .upperLetter) :
    InProgress (first :: more) .upperLetter :=
  .run (List.cons_ne_nil first more) (List.forall_mem_cons.1 h.all_upper).2

/-- The character read last has the category read last. -/
theorem exists_cons (h : InProgress token kind) :
    ∃ last more, token = last :: more ∧ category last = kind := by
  cases h with
  | run hne hrun =>
      obtain ⟨last, more, rfl⟩ := List.exists_cons_of_ne_nil hne
      exact ⟨last, more, rfl, hrun last List.mem_cons_self⟩
  | capital hne hsmall hcapital =>
      obtain ⟨last, more, rfl⟩ := List.exists_cons_of_ne_nil hne
      exact ⟨last, more ++ [_], rfl, hsmall last List.mem_cons_self⟩

theorem isToken (h : InProgress token kind) : IsToken token.reverse := by
  cases h with
  | run hne hrun => exact ⟨by simpa using hne, .inl ⟨kind, by simpa using hrun⟩⟩
  | @capital small c hne hsmall hcapital =>
      exact ⟨by simp, .inr ⟨c, small.reverse, by simp, hcapital, by simpa using hsmall⟩⟩

/-- No boundary lies inside a token in progress, unless a small letter follows capitals. -/
theorem not_boundary (h : InProgress token kind)
    (hrest : ¬ (kind = .upperLetter ∧ ∃ d ∈ rest.head?, category d = .lowerLetter)) {i : Nat}
    (hi : 0 < i) (hlt : i < token.length) : ¬ Boundary (token.reverse ++ rest) i := by
  intro hboundary
  obtain ⟨b, c, hb, hc, hparted⟩ := hboundary
  rw [List.getElem?_append_left (by simp; omega)] at hb hc
  cases h with
  | run hne hrun =>
      have hbk : category b = kind := hrun b (by simpa using List.mem_of_getElem? hb)
      have hck : category c = kind := hrun c (by simpa using List.mem_of_getElem? hc)
      rcases hparted with hchange | hcapitals
      · exact hchange.1 (hbk.trans hck.symm)
      · obtain ⟨hupper, -, d, hd, hsmall⟩ := hcapitals
        have hkind : kind = .upperLetter := hbk.symm.trans hupper
        by_cases hin : i + 1 < token.length
        · -- The next character belongs to the token, so it is a capital.
          rw [List.getElem?_append_left (by simpa using hin)] at hd
          have hdk : category d = kind := hrun d (by simpa using List.mem_of_getElem? hd)
          rw [hdk, hkind] at hsmall
          cases hsmall
        · have hend : i + 1 = token.reverse.length := by
            rw [List.length_reverse]
            omega
          rw [hend, List.getElem?_append_right (Nat.le_refl _), Nat.sub_self,
            ← List.head?_eq_getElem?] at hd
          exact hrest ⟨hkind, d, hd, hsmall⟩
  | @capital small cap hne hsmall hcapital =>
      obtain ⟨j, rfl⟩ := Nat.exists_eq_succ_of_ne_zero (Nat.pos_iff_ne_zero.1 hi)
      have hcl : category c = .lowerLetter := by
        rw [List.reverse_append, List.reverse_singleton, List.singleton_append, Nat.succ_eq_add_one,
          List.getElem?_cons_succ] at hc
        exact hsmall c (by simpa using List.mem_of_getElem? hc)
      have hbl : b = cap ∨ b ∈ small := by
        have hmem := List.mem_of_getElem? hb
        simp at hmem
        exact hmem
      rcases hparted with hchange | hcapitals
      · rcases hbl with rfl | hbl
        · exact hchange.2 ⟨hcapital, hcl⟩
        · exact hchange.1 ((hsmall b hbl).trans hcl.symm)
      · rw [hcl] at hcapitals
        cases hcapitals.2.1

/-- The token in progress is cut off where the category changes, unless a small letter follows a
capital. -/
theorem boundary_change {c : Char} (h : InProgress token kind) (hkind : category c ≠ kind)
    (hsmall : ¬ (category c = .lowerLetter ∧ kind = .upperLetter)) :
    Boundary (token.reverse ++ c :: rest) token.reverse.length := by
  obtain ⟨last, more, rfl, rfl⟩ := h.exists_cons
  rw [List.reverse_cons]
  exact boundary_of_parted <| .inl ⟨fun heq => hkind heq.symm, fun hboth => hsmall ⟨hboth.2, hboth.1⟩⟩

/-- The boundary moves back in front of the last of several capitals. -/
theorem boundary_capital {last first c : Char} {more : List Char}
    (h : InProgress (last :: first :: more) .upperLetter) (hc : category c = .lowerLetter) :
    Boundary ((first :: more).reverse ++ last :: c :: rest) (first :: more).reverse.length := by
  obtain ⟨hlast, hfirst⟩ := List.forall_mem_cons.1 h.all_upper
  rw [List.reverse_cons]
  exact boundary_of_parted <| .inr ⟨hfirst first List.mem_cons_self, hlast, c, rfl, hc⟩

end InProgress

/-! ## The cut -/

/-- From any token in progress on, the rest is cut at the boundaries. -/
theorem cutAt_splitFrom {token rest : List Char} {kind : Category} (h : InProgress token kind)
    {i : Nat} (hi : 0 < i) (hlt : i < (token.reverse ++ rest).length) :
    CutAt ((splitFrom token kind rest).map String.ofList) i ↔
      Boundary (token.reverse ++ rest) i := by
  induction rest generalizing token kind i with
  | nil =>
      have hinside : ¬ Boundary (token.reverse ++ []) i :=
        h.not_boundary (by simp) hi (by simpa using hlt)
      have hlength : i < token.length := by simpa using hlt
      simp only [splitFrom, List.map_cons, List.map_nil, cutAt_cons hi, hinside, iff_false,
        String.length_ofList, List.length_reverse, not_and]
      omega
  | cons c rest ih =>
      have hjoin : token.reverse ++ c :: rest = (c :: token).reverse ++ rest := by simp
      unfold splitFrom
      by_cases hkind : category c = kind
      · rw [if_pos hkind, hjoin]
        exact ih (h.cons hkind) hi (hjoin ▸ hlt)
      rw [if_neg hkind]
      by_cases hsmall : category c = .lowerLetter ∧ kind = .upperLetter
      · obtain ⟨hc, rfl⟩ := hsmall
        rw [if_pos ⟨hc, rfl⟩]
        obtain ⟨last, more, rfl, hlast⟩ := h.exists_cons
        have hpair : InProgress [c, last] (category c) := .pair hlast hc
        cases more with
        | nil => exact ih hpair hi hlt
        | cons first more =>
            have hback : (last :: first :: more).reverse ++ c :: rest =
                (first :: more).reverse ++ ([c, last].reverse ++ rest) := by simp
            have hinside (j : Nat) (hj : 0 < j) (hjlt : j < (first :: more).reverse.length) :
                ¬ Boundary ((first :: more).reverse ++ ([c, last].reverse ++ rest)) j :=
              h.of_cons.not_boundary (by simp [hlast]) hj (by simpa using hjlt)
            rw [hback] at hlt ⊢
            exact cutAt_token hinside (h.boundary_capital hc) (fun j => ih hpair) hi hlt
      · rw [if_neg hsmall]
        have hinside (j : Nat) (hj : 0 < j) (hjlt : j < token.reverse.length) :
            ¬ Boundary (token.reverse ++ c :: rest) j :=
          h.not_boundary (by simpa [and_comm] using hsmall) hj (by simpa using hjlt)
        exact cutAt_token hinside (h.boundary_change hkind hsmall) (fun j => ih (.start c)) hi hlt

/-- Whatever the token in progress, what is cut off is a token. -/
theorem isToken_of_mem_splitFrom {token rest : List Char} {kind : Category}
    (h : InProgress token kind) : ∀ t ∈ splitFrom token kind rest, IsToken t := by
  induction rest generalizing token kind with
  | nil =>
      intro t ht
      rw [List.mem_singleton.1 ht]
      exact h.isToken
  | cons c rest ih =>
      unfold splitFrom
      by_cases hkind : category c = kind
      · rw [if_pos hkind]
        exact ih (h.cons hkind)
      rw [if_neg hkind]
      by_cases hsmall : category c = .lowerLetter ∧ kind = .upperLetter
      · obtain ⟨hc, rfl⟩ := hsmall
        rw [if_pos ⟨hc, rfl⟩]
        obtain ⟨last, more, rfl, hlast⟩ := h.exists_cons
        cases more with
        | nil => exact ih (.pair hlast hc)
        | cons first more =>
            exact List.forall_mem_cons.2 ⟨h.of_cons.isToken, ih (.pair hlast hc)⟩
      · rw [if_neg hsmall]
        exact List.forall_mem_cons.2 ⟨h.isToken, ih (.start c)⟩

/-- **A name is cut exactly at its boundaries.** Its tokens are not empty and make the name; a cut
lies in front of a character exactly where the categories of its neighbourhood say so; so every
token is a run of one category or a capital with small letters behind it. -/
theorem split_boundaries (name : String) :
    String.join (split name) = name ∧
      (∀ i, 0 < i → i < name.length → (CutAt (split name) i ↔ Boundary name.toList i)) ∧
      ∀ t ∈ split name, IsToken t.toList := by
  refine ⟨?_, ?_, ?_⟩
  · refine String.toList_injective ?_
    rw [String.toList_join, split, List.flatMap_map]
    simp [flatten_splitChars]
  · intro i hi hlt
    rw [← String.length_toList] at hlt
    unfold split
    cases hname : name.toList with
    | nil =>
        rw [hname] at hlt
        cases hlt
    | cons c rest =>
        rw [hname] at hlt
        exact cutAt_splitFrom (.start c) hi hlt
  · intro t ht
    obtain ⟨cs, hcs, rfl⟩ := List.mem_map.1 ht
    rw [String.toList_ofList]
    cases hname : name.toList with
    | nil =>
        rw [hname] at hcs
        cases hcs
    | cons c rest =>
        rw [hname] at hcs
        exact isToken_of_mem_splitFrom (.start c) cs hcs

/-- Acronyms stay whole, and a capital goes with the small letters behind it. -/
example : split "getHTTPServer2" = ["get", "HTTP", "Server", "2"] := by decide +kernel

end Pseudonym.Name
