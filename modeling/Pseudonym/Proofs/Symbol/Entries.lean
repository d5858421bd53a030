import Mathlib.Data.List.Nodup
import Mathlib.Data.String.Basic
import Pseudonym.Proofs.Symbol.Marker
import Pseudonym.Proofs.Text.Split
import Pseudonym.Proofs.Text.Trim

/-!
# What the entries of a marker set decide

A marker set holds the trimmed texts of its entries, each once (`MarkerSet.Holds`): adding one more
keeps that, so that it is true of the set of any list. Everything else is read off from it. A full
name covers itself, a wildcard all that stands behind its package and a dot; the listing is sorted
and so forgets in which order the entries came; and since what is listed is trimmed, the listing of
a set makes the same set again.
-/

namespace Pseudonym.MarkerSet

open Text

/-! ## Wildcards and packages -/

theorem package?_eq_some {entry p : String} : package? entry = some p ↔ entry = p ++ ".*" := by
  have hends : entry.endsWith ".*" ↔ ['.', '*'] <:+ entry.toList := by
    rw [String.endsWith, String.Slice.endsWith_string_iff]
    simp
  constructor
  · intro h
    rw [package?] at h
    split at h
    case isFalse => cases h
    case isTrue hwild =>
      obtain ⟨front, hfront⟩ := hends.1 hwild
      rw [← hfront] at h
      simp only [Option.some.injEq] at h
      subst h
      refine String.toList_injective ?_
      rw [← hfront]
      simp [List.dropLast_append_of_ne_nil]
  · rintro rfl
    have hwild : (p ++ ".*").endsWith ".*" := hends.2 ⟨p.toList, by simp⟩
    rw [package?, if_pos hwild]
    simp [List.dropLast_append_of_ne_nil]

theorem package?_wildcard (p : String) : package? (p ++ ".*") = some p := package?_eq_some.2 rfl

theorem package?_eq_none {entry : String} : package? entry = none ↔ ∀ p, entry ≠ p ++ ".*" := by
  rw [Option.eq_none_iff_forall_ne_some]
  exact forall_congr' fun p => not_congr package?_eq_some

theorem wildcard_ne_empty (p : String) : p ++ ".*" ≠ "" := by
  intro h
  have hlength := congrArg String.length h
  rw [String.length_append] at hlength
  exact absurd (Nat.eq_zero_of_add_eq_zero_left hlength) (by decide)

theorem wildcard_injective : Function.Injective fun p : String => p ++ ".*" := by
  intro p q h
  have hpackage := congrArg package? h
  rwa [package?_wildcard, package?_wildcard, Option.some.injEq] at hpackage

/-- The packages of a name are what stands before one of its dots. -/
theorem mem_enclosingPackages {p marker : String} :
    p ∈ enclosingPackages marker ↔ ∃ rest, marker = p ++ "." ++ rest := by
  have hdot : "." = String.singleton '.' := rfl
  rw [enclosingPackages, hdot, ← exists_firstParts_eq, List.mem_map]
  constructor
  · intro h
    obtain ⟨n, hn, hp⟩ := h
    have hn := List.mem_range.1 hn
    exact ⟨n + 1, Nat.succ_pos n, by omega, hp⟩
  · intro h
    obtain ⟨n, hpos, hn, hp⟩ := h
    refine ⟨n - 1, List.mem_range.2 (by omega), ?_⟩
    rw [Nat.sub_add_cancel hpos]
    exact hp

/-- No name is one of its own packages. -/
theorem not_mem_enclosingPackages_self {p : String} : p ∉ enclosingPackages p := by
  rw [mem_enclosingPackages]
  rintro ⟨rest, h⟩
  have hlength := congrArg String.length h
  simp only [String.length_append] at hlength
  have hdot : ".".length = 1 := rfl
  omega

theorem covers_iff {s : MarkerSet} {marker : String} :
    s.covers marker ↔
      marker ∈ s.names ∨ ∃ p ∈ s.packages, ∃ rest, marker = p ++ "." ++ rest := by
  simp only [covers, Bool.or_eq_true, List.any_eq_true, List.contains_iff_mem,
    mem_enclosingPackages]
  exact or_congr_right (exists_congr fun p => and_comm)

/-- A look-up is open where no marker is a hit and one could not be resolved. -/
theorem lookup_eq_unknown {s : MarkerSet} {ms : List (Option String)} :
    s.lookup ms = .unknown ↔ (¬ ∃ m, some m ∈ ms ∧ s.covers m) ∧ none ∈ ms := by
  have hunknown (a : Presence) : a = .unknown ↔ a ≠ .present ∧ a.blocks := by
    cases a <;> decide
  rw [hunknown, Ne, lookup_eq_present, blocks_lookup]
  exact and_congr_right fun hmiss => or_iff_left hmiss

/-! ## Adding entries -/

theorem mem_insertOnce {item other : String} {items : List String} :
    other ∈ insertOnce item items ↔ other ∈ items ∨ other = item := by
  rw [insertOnce]
  split_ifs with h
  · exact (or_iff_left_of_imp fun heq => heq ▸ h).symm
  · simp

theorem nodup_insertOnce {item : String} {items : List String} (h : items.Nodup) :
    (insertOnce item items).Nodup := by
  rw [insertOnce]
  split_ifs with hmem
  · exact h
  · exact List.nodup_append.2 ⟨h, List.nodup_singleton item,
      fun a ha b hb hab => hmem (List.mem_singleton.1 hb ▸ hab ▸ ha)⟩

/-- A single wildcard covers the names inside its package and no others. -/
theorem covers_ofList_wildcard {e p marker : String} (h : trim e = p ++ ".*") :
    (ofList [e]).covers marker ↔ ∃ rest, marker = p ++ "." ++ rest := by
  have hset : ofList [e] = { packages := [p] } := by
    rw [ofList, List.foldl_cons, List.foldl_nil, insert, h]
    simp only [if_neg (wildcard_ne_empty p), package?_wildcard, insertOnce, List.not_mem_nil,
      if_false, List.nil_append]
  rw [hset, covers_iff]
  simp

/-- A set with these entries: their trimmed texts without blank ones, each once, wildcards apart. -/
structure Holds (s : MarkerSet) (entries : List String) : Prop where
  names_nodup : s.names.Nodup
  packages_nodup : s.packages.Nodup
  mem_names : ∀ m, m ∈ s.names ↔ m ∈ entries.map trim ∧ m ≠ "" ∧ package? m = none
  mem_packages : ∀ p, p ∈ s.packages ↔ p ++ ".*" ∈ entries.map trim

namespace Holds

variable {s t : MarkerSet} {entries entries' : List String}

theorem empty : Holds {} [] where
  names_nodup := List.nodup_nil
  packages_nodup := List.nodup_nil
  mem_names := by simp
  mem_packages := by simp

/-- One more entry: a blank one, a wildcard or a full name. -/
theorem insert (h : s.Holds entries) (entry : String) :
    (s.insert entry).Holds (entries ++ [entry]) := by
  have hmem (m : String) : m ∈ (entries ++ [entry]).map trim ↔
      m ∈ entries.map trim ∨ m = trim entry := by
    simp
  unfold MarkerSet.insert
  dsimp only
  generalize trim entry = text at hmem ⊢
  by_cases hblank : text = ""
  · rw [if_pos hblank]
    refine ⟨h.names_nodup, h.packages_nodup, fun m => ?_, fun p => ?_⟩
    · rw [h.mem_names, hmem, hblank]
      tauto
    · rw [h.mem_packages, hmem, hblank]
      exact (or_iff_left (wildcard_ne_empty p)).symm
  · rw [if_neg hblank]
    cases hpackage : package? text with
    | some q =>
        -- A wildcard is no full name, so the names stay what they were.
        refine ⟨h.names_nodup, nodup_insertOnce h.packages_nodup, fun m => ?_, fun p => ?_⟩
        · have hname : package? m = none → m ≠ text := by
            rintro hm rfl
            rw [hm] at hpackage
            cases hpackage
          rw [h.mem_names, hmem]
          tauto
        · rw [mem_insertOnce, h.mem_packages, hmem, package?_eq_some.1 hpackage,
            wildcard_injective.eq_iff]
    | none =>
        refine ⟨nodup_insertOnce h.names_nodup, h.packages_nodup, fun m => ?_, fun p => ?_⟩
        · have hname : m = text → m ≠ "" ∧ package? m = none := by
            rintro rfl
            exact ⟨hblank, hpackage⟩
          rw [mem_insertOnce, h.mem_names, hmem]
          tauto
        · rw [h.mem_packages, hmem]
          exact (or_iff_left fun heq => package?_eq_none.1 hpackage p heq.symm).symm

theorem foldl_insert (h : s.Holds entries) (more : List String) :
    (more.foldl MarkerSet.insert s).Holds (entries ++ more) := by
  induction more generalizing s entries with
  | nil => simpa using h
  | cons entry more ih => simpa using ih (h.insert entry)

theorem ofList (entries : List String) : (MarkerSet.ofList entries).Holds entries :=
  empty.foldl_insert entries

/-- The rule for names: a full name stands for itself, a wildcard for what is inside its package. -/
theorem covers_iff (h : s.Holds entries) {marker : String} :
    s.covers marker ↔
      (∃ e ∈ entries, trim e = marker ∧ marker ≠ "" ∧ ∀ p, marker ≠ p ++ ".*") ∨
        ∃ e ∈ entries, ∃ p, trim e = p ++ ".*" ∧ ∃ rest, marker = p ++ "." ++ rest := by
  simp only [MarkerSet.covers_iff, h.mem_names, h.mem_packages, package?_eq_none, List.mem_map]
  constructor
  · rintro (⟨⟨e, he, heq⟩, hname⟩ | ⟨p, ⟨e, he, heq⟩, hrest⟩)
    · exact Or.inl ⟨e, he, heq, hname⟩
    · exact Or.inr ⟨e, he, p, heq, hrest⟩
  · rintro (⟨e, he, heq, hname⟩ | ⟨e, he, p, heq, hrest⟩)
    · exact Or.inl ⟨⟨e, he, heq⟩, hname⟩
    · exact Or.inr ⟨p, ⟨e, he, heq⟩, hrest⟩

end Holds

/-! ## Listings -/

theorem sortTexts_perm (items : List String) : (sortTexts items).Perm items :=
  List.mergeSort_perm ..

theorem sortTexts_pairwise (items : List String) : (sortTexts items).Pairwise (· ≤ ·) := by
  have hsorted : (sortTexts items).Pairwise fun a b => decide (a ≤ b) = true :=
    List.pairwise_mergeSort
      (fun a b c hab hbc => decide_eq_true ((of_decide_eq_true hab).trans (of_decide_eq_true hbc)))
      (fun a b => by simpa using le_total a b) items
  exact hsorted.imp of_decide_eq_true

theorem sortTexts_eq_of_perm {items items' : List String} (h : items.Perm items') :
    sortTexts items = sortTexts items' :=
  List.Perm.eq_of_pairwise (fun _ _ _ _ => le_antisymm) (sortTexts_pairwise items)
    (sortTexts_pairwise items')
    ((sortTexts_perm items).trans (h.trans (sortTexts_perm items').symm))

theorem length_toList {s : MarkerSet} : s.toList.length = s.size := by
  rw [toList, List.length_append, (sortTexts_perm _).length_eq, (sortTexts_perm _).length_eq,
    List.length_map, size]

/-- Two sets that cannot be told apart: by what they list, how many, and what they cover. -/
structure Alike (s t : MarkerSet) : Prop where
  toList_eq : s.toList = t.toList
  size_eq : s.size = t.size
  covers_eq : ∀ marker, s.covers marker = t.covers marker

/-- Look-ups do not tell them apart either, and neither order nor repetition of markers matters. -/
theorem Alike.lookup_eq {s t : MarkerSet} (h : s.Alike t) {ms ms' : List (Option String)}
    (hms : ∀ m, m ∈ ms ↔ m ∈ ms') : s.lookup ms = t.lookup ms' :=
  Presence.ext (by simp only [lookup_eq_present, h.covers_eq, hms])
    (by simp only [blocks_lookup, h.covers_eq, hms])

namespace Holds

variable {s t : MarkerSet} {entries entries' : List String}

/-- Entries with the same trimmed texts, blank ones aside, make sets that cannot be told apart. -/
theorem alike (hs : s.Holds entries) (ht : t.Holds entries')
    (h : ∀ m, m ≠ "" → (m ∈ entries.map trim ↔ m ∈ entries'.map trim)) : s.Alike t := by
  have hnames (m : String) : m ∈ s.names ↔ m ∈ t.names := by
    rw [hs.mem_names, ht.mem_names]
    exact and_congr_left fun hm => h m hm.1
  have hpackages (p : String) : p ∈ s.packages ↔ p ∈ t.packages := by
    rw [hs.mem_packages, ht.mem_packages]
    exact h _ (wildcard_ne_empty p)
  -- Nothing stands in them twice, so they are permutations, which sorting makes equal.
  have hlist : s.toList = t.toList := by
    rw [toList, toList,
      sortTexts_eq_of_perm ((List.perm_ext_iff_of_nodup hs.names_nodup ht.names_nodup).2 hnames),
      sortTexts_eq_of_perm
        (((List.perm_ext_iff_of_nodup hs.packages_nodup ht.packages_nodup).2 hpackages).map _)]
  refine ⟨hlist, ?_, fun marker => ?_⟩
  · rw [← length_toList, ← length_toList, hlist]
  · rw [Bool.eq_iff_iff, MarkerSet.covers_iff, MarkerSet.covers_iff, hnames]
    simp only [hpackages]

/-- The listing is the trimmed texts of the entries without blank ones. -/
theorem mem_toList (h : s.Holds entries) {m : String} :
    m ∈ s.toList ↔ m ∈ entries.map trim ∧ m ≠ "" := by
  have hwild : m ∈ s.packages.map (· ++ ".*") ↔ ∃ p ∈ s.packages, p ++ ".*" = m := List.mem_map
  rw [toList, List.mem_append, (sortTexts_perm _).mem_iff, (sortTexts_perm _).mem_iff, h.mem_names,
    hwild]
  constructor
  · rintro (⟨hm, hne, -⟩ | ⟨p, hp, rfl⟩)
    · exact ⟨hm, hne⟩
    · exact ⟨(h.mem_packages p).1 hp, wildcard_ne_empty p⟩
  · rintro ⟨hm, hne⟩
    cases hpackage : package? m with
    | none => exact Or.inl ⟨hm, hne, rfl⟩
    | some p =>
        obtain rfl := package?_eq_some.1 hpackage
        exact Or.inr ⟨p, (h.mem_packages p).2 hm, rfl⟩

/-- What is listed has nothing left to trim. -/
theorem map_trim_toList (h : s.Holds entries) : s.toList.map trim = s.toList := by
  have htrimmed : ∀ m ∈ s.toList, trim m = id m := by
    intro m hm
    obtain ⟨e, -, rfl⟩ := List.mem_map.1 (h.mem_toList.1 hm).1
    exact trimWhile_trimWhile
  rw [List.map_congr_left htrimmed, List.map_id]

/-- Listing a set and reading the listing back. -/
theorem alike_ofList_toList (h : s.Holds entries) : (MarkerSet.ofList s.toList).Alike s :=
  (ofList s.toList).alike h fun m hm => by
    rw [h.map_trim_toList, h.mem_toList]
    exact and_iff_left hm

end Holds

/-! ## What the entries decide -/

/-- The set of any list of entries covers a full name that was entered and whatever stands behind an
entered package and a dot, not the package itself. A look-up is a hit where a marker is covered, and
open where none is and one could not be resolved. Of the entries only their trimmed texts count, of
the markers only which there are, not their order or how often they come; and a listing makes the
set again that it lists. -/
theorem ofList_decides (entries : List String) :
    (∀ marker, (ofList entries).covers marker ↔
      (∃ e ∈ entries, trim e = marker ∧ marker ≠ "" ∧ ∀ p, marker ≠ p ++ ".*") ∨
        ∃ e ∈ entries, ∃ p, trim e = p ++ ".*" ∧ ∃ rest, marker = p ++ "." ++ rest) ∧
    (∀ e p, trim e = p ++ ".*" →
      ¬ (ofList [e]).covers p ∧
        ∀ marker, (ofList [e]).covers marker ↔ ∃ rest, marker = p ++ "." ++ rest) ∧
    (∀ ms,
      ((ofList entries).lookup ms = .present ↔
        ∃ m, some m ∈ ms ∧ (ofList entries).covers m) ∧
      ((ofList entries).lookup ms = .unknown ↔
        (¬ ∃ m, some m ∈ ms ∧ (ofList entries).covers m) ∧ none ∈ ms)) ∧
    (∀ entries', (∀ m, m ≠ "" → (m ∈ entries.map trim ↔ m ∈ entries'.map trim)) →
      (ofList entries).Alike (ofList entries') ∧
        ∀ ms ms', (∀ m, m ∈ ms ↔ m ∈ ms') →
          (ofList entries).lookup ms = (ofList entries').lookup ms') ∧
    (ofList (ofList entries).toList).Alike (ofList entries) := by
  have hholds := Holds.ofList entries
  refine ⟨fun marker => hholds.covers_iff, fun e p hp => ?_,
    fun ms => ⟨lookup_eq_present, lookup_eq_unknown⟩, fun entries' h => ?_,
    hholds.alike_ofList_toList⟩
  · have hinside : ∀ marker, (ofList [e]).covers marker ↔ ∃ rest, marker = p ++ "." ++ rest :=
      fun _ => covers_ofList_wildcard hp
    exact ⟨fun h => not_mem_enclosingPackages_self (mem_enclosingPackages.2 ((hinside p).1 h)),
      hinside⟩
  · have halike := hholds.alike (Holds.ofList entries') h
    exact ⟨halike, fun ms ms' => halike.lookup_eq⟩

/-- Blanks around an entry, a repeated entry and another order make no difference. -/
theorem ofList_decides_dataclasses :
    trim " dataclasses.*" = "dataclasses" ++ ".*" ∧
    ¬ (ofList [" dataclasses.*"]).covers "dataclasses" ∧
    ["object", " dataclasses.*", " "].map trim = ["object", "dataclasses.*", ""] ∧
    (ofList ["object", " dataclasses.*", " "]).lookup [none, some "dataclasses.field"] =
      (ofList ["dataclasses.*", "object", "dataclasses.*"]).lookup
        [some "dataclasses.field", none, none] := by
  have hwild : trim " dataclasses.*" = "dataclasses" ++ ".*" := by decide +kernel
  have htrim : ["object", " dataclasses.*", " "].map trim = ["object", "dataclasses.*", ""] := by
    decide +kernel
  have htrim' : ["dataclasses.*", "object", "dataclasses.*"].map trim =
      ["dataclasses.*", "object", "dataclasses.*"] := by
    decide +kernel
  obtain ⟨-, hinside, -, hsame, -⟩ := ofList_decides ["object", " dataclasses.*", " "]
  refine ⟨hwild, (hinside _ _ hwild).1, htrim, (hsame _ fun m hm => ?_).2 _ _ fun m => ?_⟩
  · rw [htrim, htrim']
    simp only [List.mem_cons, List.not_mem_nil, or_false]
    tauto
  · simp only [List.mem_cons, List.not_mem_nil, or_false]
    tauto

end Pseudonym.MarkerSet
