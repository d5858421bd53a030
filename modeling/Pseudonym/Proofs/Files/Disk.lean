import Mathlib
import Pseudonym.Files.Disk

/-!
# What stands where on a disk

A disk is seen as a map from lists of names to entries: a file with its bytes, or a folder. Every
operation on a path without double dots is one change of that map, and where it succeeds is said in
terms of the map. Main statements:

* `Node.lookup?_put`: putting a node changes the map below its place and nowhere else;
* `Disk.wrote_of_write`, `Disk.madeFolder_of_ensureFolder`: what writing a file and making a folder
  do; `Disk.write_eq_ok`, `Disk.exists_ensureFolder`: where they succeed;
* `Disk.exists_of_mem_collect`, `Disk.nodup_collect`: discovery finds files below the root, each once.
-/

namespace Pseudonym.Files

/-! ## Entries -/

/-- What stands at a place: a file with its bytes, or a folder. -/
inductive Entry where
  | file (content : ByteArray)
  | folder
deriving DecidableEq

namespace Node

/-- The entry that a node is. -/
def entry : Node → Entry
  | .file content => .file content
  | .folder _ => .folder

/-- The entry that a list of names leads to. -/
def lookup? (t : Node) (names : List String) : Option Entry := (t.get? names).map entry

@[simp] theorem get?_nil (t : Node) : t.get? [] = some t := by
  cases t <;> rfl

theorem get?_append (a b : List String) (t : Node) :
    t.get? (a ++ b) = (t.get? a).bind (get? b) := by
  induction a generalizing t with
  | nil => simp
  | cons name rest ih =>
    cases t with
    | file => rfl
    | folder entries => cases h : child? name entries <;> simp [get?, h, ih]

theorem get?_append_of_get? {a b : List String} {t u : Node} (h : t.get? a = some u) :
    t.get? (a ++ b) = u.get? b := by
  rw [get?_append, h, Option.bind_some]

theorem entry_eq_folder {t : Node} : t.entry = .folder ↔ ∃ entries, t = .folder entries := by
  cases t <;> simp [entry]

theorem entry_eq_file {t : Node} {content : ByteArray} :
    t.entry = .file content ↔ t = .file content := by
  cases t <;> simp [entry]

theorem lookup?_eq_folder {t : Node} {names : List String} :
    t.lookup? names = some .folder ↔ ∃ entries, t.get? names = some (.folder entries) := by
  cases h : t.get? names <;> simp [lookup?, h, entry_eq_folder]

theorem lookup?_eq_file {t : Node} {names : List String} {content : ByteArray} :
    t.lookup? names = some (.file content) ↔ t.get? names = some (.file content) := by
  cases h : t.get? names <;> simp [lookup?, h, entry_eq_file]

theorem lookup?_eq_none {t : Node} {names : List String} :
    t.lookup? names = none ↔ t.get? names = none := by
  simp [lookup?]

/-- Whatever stands below a place stands in a folder. -/
theorem lookup?_above {t : Node} {p q : List String} (hpq : p <+: q) (hne : p ≠ q)
    (h : t.lookup? q ≠ none) : t.lookup? p = some .folder := by
  obtain ⟨rest, rfl⟩ := hpq
  obtain ⟨name, rest, rfl⟩ := List.exists_cons_of_ne_nil (fun h : rest = [] => hne (by simp [h]))
  rw [Ne, lookup?_eq_none, get?_append] at h
  cases hp : t.get? p with
  | none => simp [hp] at h
  | some u =>
    cases u with
    | file content => simp [hp, get?] at h
    | folder entries => exact lookup?_eq_folder.2 ⟨entries, hp⟩

/-- There is nothing below a file. -/
theorem lookup?_below_file {t : Node} {p q : List String} {content : ByteArray}
    (h : t.lookup? p = some (.file content)) (hpq : p <+: q) (hne : p ≠ q) : t.lookup? q = none := by
  by_contra hq
  rw [lookup?_above hpq hne hq] at h
  cases h

/-! ## Putting a node -/

@[simp] theorem child?_setEntry (name other : String) (node : Node)
    (entries : List (String × Node)) :
    child? other (setEntry name node entries) =
      if name = other then some node else child? other entries := by
  induction entries with
  | nil => simp [setEntry, child?]
  | cons e rest ih =>
    obtain ⟨n, old⟩ := e
    by_cases hn : n = name
    · subst hn
      by_cases ho : n = other <;> simp [setEntry, child?, ho]
    · by_cases ho : n = other
      · subst ho
        simp [setEntry, child?, hn, Ne.symm hn]
      · simp [setEntry, child?, hn, ho, ih]

/-- A place that is not on the way to the changed one, nor below it, keeps its node. -/
theorem get?_put_of_disjoint {new t : Node} {p q : List String} (hpq : ¬ p <+: q)
    (hqp : ¬ q <+: p) : (put new p t).get? q = t.get? q := by
  induction p generalizing q t with
  | nil => exact absurd List.nil_prefix hpq
  | cons name rest ih =>
    cases q with
    | nil => exact absurd List.nil_prefix hqp
    | cons other below =>
      cases t with
      | file => rfl
      | folder entries =>
        by_cases h : name = other
        · subst h
          have hpq' : ¬ rest <+: below := fun h => hpq (by simpa using h)
          have hqp' : ¬ below <+: rest := fun h => hqp (by simpa using h)
          cases hc : child? name entries with
          | none =>
            -- below an entry that was not there, only the new node is found
            obtain ⟨b, bs, rfl⟩ := List.exists_cons_of_ne_nil
              (fun h : below = [] => hqp' (h ▸ List.nil_prefix))
            simp [put, get?, hc, ih hpq' hqp', child?]
          | some u => simp [put, get?, hc, ih hpq' hqp']
        · simp [put, get?, h]

/-- A node that is put into a folder is found below its place, and nothing else changes. -/
theorem lookup?_put {new t : Node} {p : List String} (h : t.lookup? p.dropLast = some .folder)
    (q : List String) :
    (put new p t).lookup? q = if p <+: q then new.lookup? (q.drop p.length) else t.lookup? q := by
  induction p generalizing q t with
  | nil => simp [put]
  | cons name rest ih =>
    obtain ⟨entries, rfl⟩ : ∃ entries, t = .folder entries := by
      cases t with
      | folder entries => exact ⟨entries, rfl⟩
      | file content => cases rest <;> simp [lookup?, get?, entry] at h
    cases q with
    | nil => simp [put, lookup?, entry]
    | cons other below =>
      by_cases hn : name = other
      · subst hn
        have hrec : (put new (name :: rest) (.folder entries)).lookup? (name :: below) =
            (put new rest ((child? name entries).getD (.folder []))).lookup? below := by
          simp [lookup?, put, get?]
        cases rest with
        | nil =>
          rw [hrec]
          simp [put]
        | cons r rs =>
          obtain ⟨u, hu⟩ : ∃ u, child? name entries = some u := by
            cases hc : child? name entries with
            | some u => exact ⟨u, rfl⟩
            | none => simp [lookup?, get?, hc] at h
          have hold : (folder entries).lookup? (name :: below) = u.lookup? below := by
            simp [lookup?, get?, hu]
          rw [hrec, hold, hu, Option.getD_some,
            ih (by simpa [lookup?, get?, hu] using h) below]
          simp
      · have : ¬ name :: rest <+: other :: below := fun hp => hn (List.cons_prefix_cons.1 hp).1
        rw [if_neg this]
        simp [lookup?, put, get?, hn]

/-- A node with no entries of its own, put where no folder is: the map changes at one place. -/
theorem lookup?_put_leaf {new t : Node} {p : List String}
    (hnew : ∀ q, q ≠ [] → new.lookup? q = none) (hdir : t.lookup? p.dropLast = some .folder)
    (hp : t.lookup? p ≠ some .folder) (q : List String) :
    (put new p t).lookup? q = if q = p then some new.entry else t.lookup? q := by
  rw [lookup?_put hdir]
  by_cases hpq : p <+: q
  · obtain ⟨rest, rfl⟩ := hpq
    by_cases hr : rest = []
    · simp [hr, lookup?]
    · have hbelow : t.lookup? (p ++ rest) = none := by
        by_contra hq
        exact hp (lookup?_above (List.prefix_append _ _) (by simpa using hr) hq)
      simp [hr, hbelow, hnew]
  · have : q ≠ p := fun h => hpq (h ▸ List.prefix_refl q)
    simp [hpq, this]

/-- It changes no node but those on the way to its place. -/
theorem get?_put_leaf {new t : Node} {p : List String}
    (hnew : ∀ q, q ≠ [] → new.lookup? q = none) (hdir : t.lookup? p.dropLast = some .folder)
    (hp : t.lookup? p ≠ some .folder) {q : List String} (hq : ¬ q <+: p) :
    (put new p t).get? q = t.get? q := by
  by_cases hpq : p <+: q
  · have hne : q ≠ p := fun h => hq (h ▸ List.prefix_refl q)
    have hbelow : t.lookup? q = none := by
      by_contra h
      exact hp (lookup?_above hpq (Ne.symm hne) h)
    have hput : (put new p t).lookup? q = none := by
      rw [lookup?_put_leaf hnew hdir hp, if_neg hne, hbelow]
    rw [lookup?_eq_none.1 hput, lookup?_eq_none.1 hbelow]
  · exact get?_put_of_disjoint hpq hq

theorem lookup?_file_of_ne_nil (content : ByteArray) {q : List String} (hq : q ≠ []) :
    (Node.file content).lookup? q = none := by
  cases q with
  | nil => exact absurd rfl hq
  | cons => rfl

theorem lookup?_empty_of_ne_nil {q : List String} (hq : q ≠ []) :
    (Node.folder []).lookup? q = none := by
  cases q with
  | nil => exact absurd rfl hq
  | cons => rfl

end Node

/-! ## Following a path -/

/-- A path with the usual root and without double dots leads to the place of its own names. -/
def Path.Plain (p : Path) : Prop := p.root = "/" ∧ ".." ∉ p.parts

namespace Path

theorem collapse_eq_self {parts : List String} (h : ".." ∉ parts) : collapse parts = parts := by
  have fold : ∀ (rest done : List String), ".." ∉ rest →
      rest.foldl (fun done part => if part = ".." then done.drop 1 else part :: done) done =
        rest.reverse ++ done := by
    intro rest
    induction rest with
    | nil => intro done _; rfl
    | cons part rest ih =>
      intro done hrest
      simp only [List.mem_cons, not_or] at hrest
      rw [List.foldl_cons, if_neg (Ne.symm hrest.1), ih _ hrest.2]
      simp
  rw [collapse, fold parts [] h]
  simp

theorem not_mem_collapse (parts : List String) : ".." ∉ collapse parts := by
  have fold : ∀ (rest done : List String), ".." ∉ done →
      ".." ∉ rest.foldl (fun done part => if part = ".." then done.drop 1 else part :: done) done := by
    intro rest
    induction rest with
    | nil => intro done h; exact h
    | cons part rest ih =>
      intro done hdone
      rw [List.foldl_cons]
      apply ih
      split
      · exact fun h => hdone (List.mem_of_mem_drop h)
      · rename_i hpart
        simp [Ne.symm hpart, hdone]
  simpa [collapse] using fold parts [] (by simp)

/-- The plain paths are those that cleaning leaves as they are. -/
theorem plain_iff {p : Path} : p.Plain ↔ p.clean = p := by
  constructor
  · rintro ⟨hroot, hparts⟩
    rw [clean, collapse_eq_self hparts, ← hroot]
  · intro h
    rw [← h]
    exact ⟨rfl, not_mem_collapse _⟩

instance (p : Path) : Decidable p.Plain := inferInstanceAs (Decidable (_ ∧ _))

theorem Plain.clean {p : Path} (h : p.Plain) : p.clean = p := plain_iff.1 h

theorem Plain.parent {p : Path} (h : p.Plain) : p.parent.Plain :=
  ⟨h.1, fun hm => h.2 (List.mem_of_mem_dropLast hm)⟩

theorem parent_length_lt {p : Path} (h : p.parts ≠ []) :
    p.parent.parts.length < p.parts.length := by
  have hpos := List.length_pos_iff.2 h
  simp only [Path.parent, List.length_dropLast]
  omega

/-- The path that some names below another one lead to. -/
def below (p : Path) (names : List String) : Path := ⟨p.root, p.parts ++ names⟩

@[simp] theorem below_parts (p : Path) (names : List String) :
    (p.below names).parts = p.parts ++ names := rfl

theorem below_injective (p : Path) : Function.Injective p.below := by
  intro a b h
  simpa [below] using h

theorem Plain.below {p : Path} (h : p.Plain) {names : List String} (hn : ".." ∉ names) :
    (p.below names).Plain :=
  ⟨h.1, by simp [h.2, hn]⟩

theorem Plain.eq_of_parts {p q : Path} (hp : p.Plain) (hq : q.Plain) (h : p.parts = q.parts) :
    p = q := by
  cases p; cases q
  simp_all [Plain]

theorem dropFront?_eq_some {front parts rest : List String} :
    dropFront? front parts = some rest ↔ parts = front ++ rest := by
  induction front generalizing parts with
  | nil => simp [dropFront?, eq_comm]
  | cons f fs ih =>
    cases parts with
    | nil => simp [dropFront?]
    | cons p ps =>
      by_cases h : f = p
      · simp [dropFront?, h, ih]
      · simp [dropFront?, h, Ne.symm h]

theorem relativeTo?_eq_some {p base q : Path} :
    p.relativeTo? base = some q ↔
      p.root = base.root ∧ q.root = "" ∧ p.parts = base.parts ++ q.parts := by
  obtain ⟨root, parts⟩ := q
  simp only [relativeTo?]
  split
  · rename_i h
    simp only [Option.map_eq_some_iff, dropFront?_eq_some, mk.injEq, h, true_and]
    constructor
    · rintro ⟨rest, hrest, rfl, rfl⟩
      exact ⟨rfl, hrest⟩
    · rintro ⟨rfl, hrest⟩
      exact ⟨parts, hrest, rfl, rfl⟩
  · rename_i h
    simp [h]

/-- A plain path lies inside another one when its names start with those of the other. -/
theorem isInside_iff {p base : Path} (hp : p.Plain) (hb : base.Plain) :
    p.isInside base = true ↔ base.parts <+: p.parts := by
  rw [isInside, hp.clean, hb.clean, isWithin, Option.isSome_iff_exists]
  constructor
  · rintro ⟨q, hq⟩
    exact ⟨q.parts, (relativeTo?_eq_some.1 hq).2.2.symm⟩
  · rintro ⟨rest, hrest⟩
    exact ⟨⟨"", rest⟩, relativeTo?_eq_some.2 ⟨hp.1.trans hb.1.symm, rfl, hrest.symm⟩⟩

/-- Where a path below one folder stands below another. -/
theorem append_relativeTo? (root out : Path) (names : List String) :
    out.append (((root.below names).relativeTo? root).getD (root.below names)) =
      out.below names := by
  have h : (root.below names).relativeTo? root = some ⟨"", names⟩ :=
    relativeTo?_eq_some.2 ⟨rfl, rfl, rfl⟩
  rw [h, Option.getD_some]
  rfl

end Path

theorem follow_taken {top node : Node} {reached names : List String} (hn : ".." ∉ names)
    (h : top.get? (reached ++ names) = some node) :
    follow top reached names = .taken (reached ++ names) node := by
  induction names generalizing reached with
  | nil =>
    rw [List.append_nil] at h ⊢
    simp [follow, h]
  | cons name rest ih =>
    simp only [List.mem_cons, not_or] at hn
    rw [Node.get?_append] at h
    cases hr : top.get? reached with
    | none => simp [hr] at h
    | some u =>
      cases u with
      | file content => simp [hr, Node.get?] at h
      | folder entries =>
        cases hc : Node.child? name entries with
        | none => simp [hr, Node.get?, hc] at h
        | some v =>
          have hnext : top.get? ((reached ++ [name]) ++ rest) = some node := by
            rw [List.append_assoc, Node.get?_append, hr]
            simpa [hr] using h
          simp only [follow, hr, Ne.symm hn.1, if_false, hc]
          rw [ih hn.2 hnext, List.append_assoc, List.singleton_append]

/-- A path into a folder that lacks the last name leads to a free place; one through a folder that is
not there is lost. -/
theorem follow_absent {top : Node} {reached names : List String} (hn : ".." ∉ names)
    (hne : names ≠ []) (hreached : top.lookup? reached = some .folder)
    (h : top.get? (reached ++ names) = none)
    (hfile : ∀ q content, q <+: reached ++ names → top.lookup? q ≠ some (.file content)) :
    follow top reached names =
      if top.lookup? (reached ++ names.dropLast) = some .folder then .free (reached ++ names)
      else .lost := by
  induction names generalizing reached with
  | nil => exact absurd rfl hne
  | cons name rest ih =>
    simp only [List.mem_cons, not_or] at hn
    obtain ⟨entries, hr⟩ := Node.lookup?_eq_folder.1 hreached
    cases hc : Node.child? name entries with
    | none =>
      cases rest with
      | nil => simp [follow, hr, Ne.symm hn.1, hc, hreached]
      | cons r rs =>
        have hgone : top.lookup? (reached ++ (name :: r :: rs).dropLast) = none := by
          rw [Node.lookup?_eq_none, Node.get?_append_of_get? hr]
          simp [Node.get?, hc]
        rw [hgone]
        simp [follow, hr, Ne.symm hn.1, hc]
    | some u =>
      have hget : top.get? (reached ++ [name]) = some u := by
        rw [Node.get?_append_of_get? hr]
        simp [Node.get?, hc]
      have happ : reached ++ name :: rest = (reached ++ [name]) ++ rest := by simp
      have hrest : rest ≠ [] := by
        rintro rfl
        rw [hget] at h
        cases h
      have hu : top.lookup? (reached ++ [name]) = some .folder := by
        cases u with
        | folder es => exact Node.lookup?_eq_folder.2 ⟨es, hget⟩
        | file content =>
          exact absurd (Node.lookup?_eq_file.2 hget) (hfile _ _ (happ ▸ List.prefix_append _ _))
      simp only [follow, hr, Ne.symm hn.1, if_false, hc]
      rw [ih hn.2 hrest hu (happ ▸ h) (happ ▸ hfile), ← happ]
      simp [List.dropLast_cons_of_ne_nil hrest]

/-- A free place is the place of the names that were followed, inside a folder. -/
theorem follow_free {top : Node} {reached names place : List String} (hn : ".." ∉ names)
    (h : follow top reached names = .free place) :
    place = reached ++ names ∧ top.lookup? (reached ++ names) = none ∧
      top.lookup? (reached ++ names).dropLast = some .folder := by
  induction names generalizing reached with
  | nil =>
    rw [follow] at h
    split at h <;> cases h
  | cons name rest ih =>
    simp only [List.mem_cons, not_or] at hn
    have happ : reached ++ name :: rest = (reached ++ [name]) ++ rest := by simp
    rw [follow] at h
    split at h
    · cases h
    · cases h
    · rename_i entries hr
      rw [if_neg (Ne.symm hn.1)] at h
      split at h
      · rw [happ]
        exact ih hn.2 h
      · rename_i hc
        split at h
        · rename_i hempty
          obtain rfl := List.isEmpty_iff.1 hempty
          cases h
          refine ⟨rfl, ?_, ?_⟩
          · rw [Node.lookup?_eq_none, Node.get?_append_of_get? hr]
            simp [Node.get?, hc]
          · rw [List.dropLast_concat]
            exact Node.lookup?_eq_folder.2 ⟨entries, hr⟩
        · cases h

theorem prefix_dropLast_or_eq {p q : List String} (h : p <+: q) : p <+: q.dropLast ∨ p = q := by
  rcases List.eq_nil_or_concat q with rfl | ⟨init, last, rfl⟩
  · exact .inr (List.prefix_nil.1 h)
  · rw [List.concat_eq_append] at h ⊢
    rw [List.dropLast_concat]
    exact (List.prefix_concat_iff.1 h).symm

theorem not_prefix_dropLast {q : List String} (hne : q ≠ []) : ¬ q <+: q.dropLast := by
  intro h
  have hle := h.length_le
  have hpos := List.length_pos_iff.2 hne
  rw [List.length_dropLast] at hle
  omega

/-- A path to nothing is not followed to a node. -/
theorem follow_ne_taken {top node : Node} {reached parts names : List String}
    (hn : ".." ∉ parts) (h : top.get? (reached ++ parts) = none) :
    follow top reached parts ≠ .taken names node := by
  induction parts generalizing reached with
  | nil => simp_all [follow]
  | cons name rest ih =>
    simp only [List.mem_cons, not_or] at hn
    have happ : reached ++ name :: rest = (reached ++ [name]) ++ rest := by simp
    simp only [follow, Ne.symm hn.1, if_false]
    split
    · simp
    · simp
    · split
      · exact ih hn.2 (happ ▸ h)
      · split <;> simp

namespace Disk

/-- The entry that a list of names leads to. -/
def lookup? (d : Disk) (names : List String) : Option Entry := d.top.lookup? names

theorem place_taken {d : Disk} {p : Path} {node : Node} (hp : p.Plain)
    (h : d.top.get? p.parts = some node) : d.place p = .taken p.parts node :=
  follow_taken hp.2 h

/-- No file stands at a place or on the way to it. -/
def Clear (d : Disk) (names : List String) : Prop :=
  ∀ q content, q <+: names → d.lookup? q ≠ some (.file content)

theorem Clear.mono {d : Disk} {p q : List String} (h : d.Clear q) (hpq : p <+: q) : d.Clear p :=
  fun r content hr => h r content (hr.trans hpq)

/-- The way to a folder is clear. -/
theorem clear_of_folder {d : Disk} {names : List String} (h : d.lookup? names = some .folder) :
    d.Clear names := by
  intro q content hq hfile
  by_cases heq : q = names
  · rw [heq, h] at hfile
    cases hfile
  · have hnone : d.lookup? names = none := Node.lookup?_below_file hfile hq heq
    rw [hnone] at h
    cases h

theorem place_absent {d : Disk} {p : Path} (hp : p.Plain) (h : d.lookup? p.parts = none)
    (hclear : d.Clear p.parts) :
    d.place p = if d.lookup? p.parts.dropLast = some .folder then .free p.parts else .lost := by
  have htop : d.top.lookup? [] = some .folder := by
    cases ht : d.top with
    | folder => rfl
    | file content => exact absurd (by rw [lookup?, ht]; rfl) (hclear [] content List.nil_prefix)
  have hne : p.parts ≠ [] := by
    intro hnil
    rw [hnil, lookup?, htop] at h
    cases h
  exact follow_absent hp.2 hne htop (Node.lookup?_eq_none.1 h) hclear

/-- A plain path leads to the node of its own names. -/
theorem node?_eq {d : Disk} {p : Path} (hp : p.Plain) : d.node? p = d.top.get? p.parts := by
  cases hg : d.top.get? p.parts with
  | some u => rw [node?, place_taken hp hg]
  | none =>
    rw [node?]
    split
    · rename_i names node h
      exact absurd h (follow_ne_taken hp.2 hg)
    · rfl

theorem isFolder_iff {d : Disk} {p : Path} (hp : p.Plain) :
    d.isFolder p = true ↔ d.lookup? p.parts = some .folder := by
  rw [isFolder, node?_eq hp, lookup?, Node.lookup?]
  rcases d.top.get? p.parts with _ | _ | _ <;> simp [Node.isFolder, Node.entry]

theorem isFile_iff {d : Disk} {p : Path} (hp : p.Plain) :
    d.isFile p = true ↔ ∃ content, d.lookup? p.parts = some (.file content) := by
  rw [isFile, node?_eq hp, lookup?, Node.lookup?]
  rcases d.top.get? p.parts with _ | _ | _ <;> simp [Node.isFolder, Node.entry]

theorem read_eq_ok {d : Disk} {p : Path} (hp : p.Plain) {content : ByteArray} :
    d.read p = .ok content ↔ d.lookup? p.parts = some (.file content) := by
  rw [lookup?, Node.lookup?_eq_file]
  constructor
  · intro h
    rw [read] at h
    split at h
    · rename_i names node hplace
      cases hg : d.top.get? p.parts with
      | none => exact absurd hplace (follow_ne_taken hp.2 hg)
      | some u =>
        rw [place_taken hp hg] at hplace
        cases hplace
        cases h
        rfl
    all_goals cases h
  · intro h
    rw [read, place_taken hp h]

/-! ## Operations -/

/-- A file is written where its folder is there and no folder stands in its place. -/
theorem write_eq_ok {d : Disk} {p : Path} (hp : p.Plain) (content : ByteArray)
    (hdir : d.lookup? p.parts.dropLast = some .folder)
    (hnot : d.lookup? p.parts ≠ some .folder) :
    d.write p content = .ok { d with top := Node.put (.file content) p.parts d.top } := by
  rw [write]
  cases hg : d.top.get? p.parts with
  | some u =>
    rw [place_taken hp hg]
    cases u with
    | file => rfl
    | folder entries => exact absurd (Node.lookup?_eq_folder.2 ⟨entries, hg⟩) hnot
  | none =>
    have habsent : d.lookup? p.parts = none := Node.lookup?_eq_none.2 hg
    have hclear : d.Clear p.parts := by
      intro q content hq hfile
      rcases prefix_dropLast_or_eq hq with hdrop | rfl
      · exact clear_of_folder hdir q content hdrop hfile
      · rw [habsent] at hfile
        cases hfile
    rw [place_absent hp habsent hclear, if_pos hdir]

/-- A file that was written is at its place, inside a folder, and nothing else has changed. -/
structure Wrote (d : Disk) (names : List String) (content : ByteArray) (d' : Disk) : Prop where
  entry : ∀ q, d'.lookup? q = if q = names then some (.file content) else d.lookup? q
  node : ∀ q, ¬ q <+: names → d'.top.get? q = d.top.get? q

theorem wrote_put {d : Disk} {names : List String} (content : ByteArray)
    (hdir : d.lookup? names.dropLast = some .folder) (hnot : d.lookup? names ≠ some .folder) :
    d.Wrote names content { d with top := Node.put (.file content) names d.top } where
  entry := Node.lookup?_put_leaf (fun _ => Node.lookup?_file_of_ne_nil content) hdir hnot
  node _ := Node.get?_put_leaf (fun _ => Node.lookup?_file_of_ne_nil content) hdir hnot

theorem dropLast_of_file {d : Disk} {names : List String} {content : ByteArray}
    (htop : d.top.isFolder = true) (h : d.lookup? names = some (.file content)) :
    d.lookup? names.dropLast = some .folder := by
  have hne : names ≠ [] := by
    rintro rfl
    rw [lookup?, Node.lookup?_eq_file, Node.get?_nil] at h
    rw [Option.some.inj h] at htop
    cases htop
  have hshort : names.dropLast ≠ names := fun heq =>
    not_prefix_dropLast hne (heq.symm ▸ List.prefix_refl names)
  exact Node.lookup?_above (List.dropLast_prefix _) hshort (by rw [← lookup?, h]; simp)

/-- Writing, if it succeeds, writes the file. -/
theorem wrote_of_write {d d' : Disk} {p : Path} (hp : p.Plain) (htop : d.top.isFolder = true)
    {content : ByteArray} (h : d.write p content = .ok d') : d.Wrote p.parts content d' := by
  rw [write] at h
  split at h
  · cases h
  · rename_i names old hplace
    cases hg : d.top.get? p.parts with
    | none => exact absurd hplace (follow_ne_taken hp.2 hg)
    | some u =>
      rw [place_taken hp hg] at hplace
      cases hplace
      cases h
      have hfile : d.lookup? p.parts = some (.file old) := Node.lookup?_eq_file.2 hg
      exact wrote_put content (dropLast_of_file htop hfile) (by rw [hfile]; simp)
  · rename_i names hplace
    cases h
    obtain ⟨rfl, habsent, hdir⟩ := follow_free hp.2 hplace
    have habsent : d.lookup? p.parts = none := habsent
    exact wrote_put content hdir (by rw [habsent]; simp)
  · cases h
  · cases h

/-! ## Reading what was written -/

/-- Where a path leads to a node, the node is there. -/
theorem get?_of_follow {top node : Node} {reached parts names : List String}
    (h : follow top reached parts = .taken names node) : top.get? names = some node := by
  induction parts generalizing reached with
  | nil =>
    rw [follow] at h
    split at h
    · next hreached =>
      cases h
      exact hreached
    · cases h
  | cons name rest ih =>
    rw [follow] at h
    split at h
    · cases h
    · cases h
    · split at h
      · exact ih h
      · split at h
        · exact ih h
        · split at h <;> cases h

/-- Where a path leads to a free place, there is a folder around it. -/
theorem lookup?_of_follow_free {top : Node} {reached parts names : List String}
    (h : follow top reached parts = .free names) :
    top.lookup? names = none ∧ top.lookup? names.dropLast = some .folder := by
  induction parts generalizing reached with
  | nil =>
    rw [follow] at h
    split at h <;> cases h
  | cons name rest ih =>
    rw [follow] at h
    split at h
    · cases h
    · cases h
    · next entries hr =>
      split at h
      · exact ih h
      · split at h
        · exact ih h
        · next hc =>
          split at h
          · cases h
            refine ⟨?_, ?_⟩
            · rw [Node.lookup?_eq_none, Node.get?_append_of_get? hr]
              simp [Node.get?, hc]
            · rw [List.dropLast_concat]
              exact Node.lookup?_eq_folder.2 ⟨entries, hr⟩
          · cases h

/-- A path leads to the file that was written through it, whatever way it goes. -/
theorem follow_of_wrote {d d' : Disk} {content : ByteArray} {reached parts names : List String}
    (hwrote : d.Wrote names content d') (hnot : d.lookup? names ≠ some .folder)
    (h : (∃ old, follow d.top reached parts = .taken names (.file old)) ∨
      follow d.top reached parts = .free names) :
    follow d'.top reached parts = .taken names (.file content) := by
  have hfile : d'.top.get? names = some (.file content) :=
    Node.lookup?_eq_file.1 ((hwrote.entry names).trans (if_pos rfl))
  induction parts generalizing reached with
  | nil =>
    rw [follow] at h
    cases hr : d.top.get? reached with
    | none => simp [hr] at h
    | some node =>
      obtain ⟨old, rfl, -⟩ : ∃ old, reached = names ∧ node = .file old := by simpa [hr] using h
      rw [follow, hfile]
  | cons name rest ih =>
    rw [follow] at h
    cases hr : d.top.get? reached with
    | none => simp [hr] at h
    | some node =>
      cases node with
      | file old => simp [hr] at h
      | folder entries =>
        rw [hr] at h
        -- the folder that was reached is still one
        have hfolder : d.lookup? reached = some .folder := Node.lookup?_eq_folder.2 ⟨entries, hr⟩
        have hne : reached ≠ names := by
          rintro rfl
          exact hnot hfolder
        obtain ⟨entries', hr'⟩ := Node.lookup?_eq_folder.1
          (((hwrote.entry reached).trans (if_neg hne)).trans hfolder)
        have hchild : d'.top.get? (reached ++ [name]) = Node.child? name entries' := by
          rw [Node.get?_append_of_get? hr']
          cases hc : Node.child? name entries' <;> simp [Node.get?, hc]
        rw [follow, hr']
        dsimp only at h ⊢
        split
        · next hup =>
          rw [if_pos hup] at h
          exact ih h
        · next hdown =>
          rw [if_neg hdown] at h
          cases hc : Node.child? name entries with
          | some u =>
            rw [hc] at h
            have hthere : d'.lookup? (reached ++ [name]) ≠ none := by
              rw [hwrote.entry]
              split
              · simp
              · have hold : d.top.get? (reached ++ [name]) = some u := by
                  rw [Node.get?_append_of_get? hr]
                  simp [Node.get?, hc]
                simp [lookup?, Node.lookup?, hold]
            have hsome : Node.child? name entries' ≠ none := fun hnone =>
              hthere (Node.lookup?_eq_none.2 (hchild.trans hnone))
            obtain ⟨v, hv⟩ := Option.ne_none_iff_exists'.1 hsome
            rw [hv]
            exact ih h
          | none =>
            rw [hc] at h
            dsimp only at h
            split at h
            · next hempty =>
              obtain rfl := List.isEmpty_iff.1 hempty
              obtain rfl : reached ++ [name] = names := by simpa using h
              have hv : Node.child? name entries' = some (.file content) := hchild.symm.trans hfile
              rw [hv, follow, hfile]
            · simp at h

/-- A disk that is a single file has only that one. -/
theorem place_of_file {d : Disk} {c : ByteArray} (htop : d.top = .file c) (p : Path) :
    d.place p = if p.parts = [] then .taken [] (.file c) else .blocked := by
  rw [place, htop]
  cases p.parts <;> rfl

/-- Writing leads the path to the file. -/
theorem place_of_write {d d' : Disk} {p : Path} {content : ByteArray}
    (h : d.write p content = .ok d') : ∃ names, d'.place p = .taken names (.file content) := by
  cases htop : d.top with
  | file c =>
    rw [write, place_of_file htop] at h
    split_ifs at h with hparts
    cases h
    exact ⟨[], (place_of_file rfl p).trans (if_pos hparts)⟩
  | folder entries =>
    have hfolder : d.top.isFolder = true := by rw [htop]; rfl
    rw [write] at h
    split at h
    · cases h
    · next names old hplace =>
      cases h
      have hold : d.lookup? names = some (.file old) :=
        Node.lookup?_eq_file.2 (get?_of_follow hplace)
      have hnot : d.lookup? names ≠ some .folder := by rw [hold]; simp
      exact ⟨names, follow_of_wrote (wrote_put content (dropLast_of_file hfolder hold) hnot) hnot
        (.inl ⟨old, hplace⟩)⟩
    · next names hplace =>
      cases h
      obtain ⟨hnone, hdir⟩ := lookup?_of_follow_free hplace
      have hnot : d.lookup? names ≠ some .folder := by rw [lookup?, hnone]; simp
      exact ⟨names, follow_of_wrote (wrote_put content hdir hnot) hnot (.inr hplace)⟩
    · cases h
    · cases h

/-- **What was written is read**, through the same path. -/
theorem read_of_write {d d' : Disk} {p : Path} {content : ByteArray}
    (h : d.write p content = .ok d') : d'.contains p = true ∧ d'.read p = .ok content := by
  obtain ⟨names, hplace⟩ := place_of_write h
  constructor
  · rw [contains, node?, hplace]
    rfl
  · rw [read, hplace]

/-! ## Folders -/

/-- What making a folder does: all folders on the way are there, and no node has changed but those on
the way. -/
structure MadeFolder (d : Disk) (names : List String) (d' : Disk) : Prop where
  entry : ∀ q, d'.lookup? q = if q <+: names then some .folder else d.lookup? q
  node : ∀ q, ¬ q <+: names → d'.top.get? q = d.top.get? q

theorem MadeFolder.refl {d : Disk} {names : List String} (h : d.lookup? names = some .folder) :
    d.MadeFolder names d where
  entry q := by
    split
    · rename_i hq
      by_cases heq : q = names
      · rw [heq, h]
      · exact Node.lookup?_above hq heq (by rw [← lookup?, h]; simp)
    · rfl
  node _ _ := rfl

/-- One more folder, inside the last one that was made. -/
theorem MadeFolder.child {d d' : Disk} {names : List String} (hne : names ≠ [])
    (h : d.lookup? names = none) (hmade : d.MadeFolder names.dropLast d') :
    d.MadeFolder names { d' with top := Node.put (.folder []) names d'.top } := by
  have hself : d'.lookup? names ≠ some .folder := by
    rw [hmade.entry, if_neg (not_prefix_dropLast hne), h]
    simp
  have hdir : d'.lookup? names.dropLast = some .folder := by
    rw [hmade.entry, if_pos (List.prefix_refl _)]
  refine ⟨fun q => ?_, fun q hq => ?_⟩
  · have hput := Node.lookup?_put_leaf (fun q hq => Node.lookup?_empty_of_ne_nil hq) hdir hself q
    rw [lookup?, hput, ← lookup?, hmade.entry]
    by_cases hq : q = names
    · simp [hq, Node.entry]
    · have hiff : q <+: names ↔ q <+: names.dropLast :=
        ⟨fun hp => (prefix_dropLast_or_eq hp).resolve_right hq,
          fun hp => hp.trans (List.dropLast_prefix _)⟩
      simp [hq, hiff]
  · have hput := Node.get?_put_leaf (fun q hq => Node.lookup?_empty_of_ne_nil hq) hdir hself hq
    exact hput.trans (hmade.node q fun hp => hq (hp.trans (List.dropLast_prefix _)))

/-- Making a folder succeeds where it is there, or where the folder above it is. -/
theorem makeFolderOnce_of_folder {d : Disk} {p : Path} (hp : p.Plain)
    (h : d.lookup? p.parts = some .folder) : d.makeFolderOnce p = .ok d := by
  obtain ⟨entries, hg⟩ := Node.lookup?_eq_folder.1 h
  have hmake : d.makeFolder p = .error ⟨.occupied, p⟩ := by
    rw [makeFolder, place_taken hp hg]
  simp [makeFolderOnce, hmake, (isFolder_iff hp).2 h]

theorem makeFolderOnce_of_absent {d : Disk} {p : Path} (hp : p.Plain) (hclear : d.Clear p.parts)
    (h : d.lookup? p.parts = none) :
    d.makeFolderOnce p =
      if d.lookup? p.parts.dropLast = some .folder then
        .ok { d with top := Node.put (.folder []) p.parts d.top }
      else .error ⟨.missing, p⟩ := by
  rw [makeFolderOnce, makeFolder, place_absent hp h hclear]
  by_cases hdir : d.lookup? p.parts.dropLast = some .folder <;> simp [hdir]

theorem makeFolderOnce_eq_ok {d d' : Disk} {p : Path} (hp : p.Plain)
    (h : d.makeFolderOnce p = .ok d') :
    (d.lookup? p.parts = some .folder ∧ d' = d) ∨
      (d.lookup? p.parts = none ∧ d.lookup? p.parts.dropLast = some .folder ∧
        d' = { d with top := Node.put (.folder []) p.parts d.top }) := by
  rw [makeFolderOnce] at h
  split at h
  · rename_i made hmake
    cases h
    rw [makeFolder] at hmake
    split at hmake
    · cases hmake
    · rename_i names hplace
      cases hmake
      obtain ⟨rfl, habsent, hdir⟩ := follow_free hp.2 hplace
      exact .inr ⟨habsent, hdir, rfl⟩
    · cases hmake
    · cases hmake
  · split at h
    · rename_i hfolder
      cases h
      rw [Bool.and_eq_true] at hfolder
      exact .inl ⟨(isFolder_iff hp).1 hfolder.2, rfl⟩
    · cases h

theorem ne_nil_of_absent {d : Disk} {names : List String} (h : d.lookup? names = none) :
    names ≠ [] := by
  rintro rfl
  rw [lookup?, Node.lookup?_eq_none, Node.get?_nil] at h
  cases h

/-- Making a folder with all folders above it, if it succeeds, makes the folder. -/
theorem madeFolder_of_ensureFolder {d d' : Disk} {p : Path} (hp : p.Plain)
    (h : d.ensureFolder p = .ok d') : d.MadeFolder p.parts d' := by
  rw [ensureFolder] at h
  split at h
  · rename_i made honce
    cases h
    rcases makeFolderOnce_eq_ok hp honce with ⟨hfolder, rfl⟩ | ⟨habsent, hdir, rfl⟩
    · exact .refl hfolder
    · exact .child (ne_nil_of_absent habsent) habsent (.refl hdir)
  · rename_i e hfailed
    split at h
    · rename_i hmissing
      have hlt := Path.parent_length_lt hmissing.2
      cases hparent : d.ensureFolder p.parent with
      | error e' => simp [hparent, bind, Except.bind] at h
      | ok d₁ =>
        simp only [hparent, bind, Except.bind] at h
        have hmade : d.MadeFolder p.parts.dropLast d₁ := madeFolder_of_ensureFolder hp.parent hparent
        have hsame : d₁.lookup? p.parts = d.lookup? p.parts := by
          rw [hmade.entry, if_neg (not_prefix_dropLast hmissing.2)]
        rcases makeFolderOnce_eq_ok hp h with ⟨hfolder, -⟩ | ⟨habsent, -, rfl⟩
        · -- a folder that is there would have been found at once
          rw [hsame] at hfolder
          rw [makeFolderOnce_of_folder hp hfolder] at hfailed
          cases hfailed
        · exact .child hmissing.2 (hsame ▸ habsent) hmade
    · cases h
termination_by p.parts.length
decreasing_by assumption

/-- Where no file stands in the way, a folder is made together with all folders above it. -/
theorem exists_ensureFolder {d : Disk} {p : Path} (hp : p.Plain) (hclear : d.Clear p.parts) :
    ∃ d', d.ensureFolder p = .ok d' := by
  cases he : d.lookup? p.parts with
  | some e =>
    cases e with
    | file content => exact absurd he (hclear _ _ (List.prefix_refl _))
    | folder =>
      rw [ensureFolder, makeFolderOnce_of_folder hp he]
      exact ⟨d, rfl⟩
  | none =>
    have hne := ne_nil_of_absent he
    have hlt := Path.parent_length_lt hne
    rw [ensureFolder, makeFolderOnce_of_absent hp hclear he]
    by_cases hdir : d.lookup? p.parts.dropLast = some .folder
    · rw [if_pos hdir]
      exact ⟨_, rfl⟩
    · obtain ⟨d', hok⟩ := exists_ensureFolder hp.parent (hclear.mono (List.dropLast_prefix _))
      have hmade : d.MadeFolder p.parts.dropLast d' := madeFolder_of_ensureFolder hp.parent hok
      have hdir' : d'.lookup? p.parts.dropLast = some .folder := by
        rw [hmade.entry, if_pos (List.prefix_refl _)]
      have habsent : d'.lookup? p.parts = none := by
        rw [hmade.entry, if_neg (not_prefix_dropLast hne), he]
      have hclear' : d'.Clear p.parts := by
        intro q content hq
        rw [hmade.entry]
        split
        · simp
        · exact hclear q content hq
      rw [if_neg hdir]
      simp only [hne, ne_eq, not_false_eq_true, and_self, if_true, hok, bind, Except.bind]
      rw [makeFolderOnce_of_absent hp hclear' habsent, if_pos hdir']
      exact ⟨_, rfl⟩
termination_by p.parts.length
decreasing_by assumption

end Disk

/-! ## Discovery -/

namespace Node

/-- Every folder has one entry of a name, and no entry is named like the way up. -/
inductive Regular : Node → Prop
  | file (content : ByteArray) : Regular (.file content)
  | folder (entries : List (String × Node)) (nodup : (entries.map Prod.fst).Nodup)
      (plain : ".." ∉ entries.map Prod.fst) (below : ∀ e ∈ entries, e.2.Regular) :
      Regular (.folder entries)

theorem child?_of_mem {entries : List (String × Node)} (hnodup : (entries.map Prod.fst).Nodup)
    {name : String} {node : Node} (h : (name, node) ∈ entries) :
    child? name entries = some node := by
  induction entries with
  | nil => cases h
  | cons e rest ih =>
    obtain ⟨n, old⟩ := e
    simp only [List.map_cons, List.nodup_cons, List.mem_map, not_exists, not_and] at hnodup
    rcases List.mem_cons.1 h with heq | hrest
    · cases heq
      simp [child?]
    · have hne : n ≠ name := fun hn => hnodup.1 (name, node) hrest hn.symm
      simp [child?, hne, ih hnodup.2 hrest]

theorem mem_of_child? {entries : List (String × Node)} {name : String} {node : Node}
    (h : child? name entries = some node) : (name, node) ∈ entries := by
  induction entries with
  | nil => cases h
  | cons e rest ih =>
    obtain ⟨n, old⟩ := e
    by_cases hn : n = name
    · simp only [child?, hn, if_true, Option.some.injEq] at h
      simp [hn, h]
    · simp only [child?, hn, if_false] at h
      exact List.mem_cons_of_mem _ (ih h)

theorem Regular.get? {t u : Node} (ht : t.Regular) {names : List String}
    (h : t.get? names = some u) : u.Regular := by
  induction names generalizing t with
  | nil =>
    rw [get?_nil] at h
    cases h
    exact ht
  | cons name rest ih =>
    cases ht with
    | file => cases h
    | folder entries _ _ below =>
      simp only [Node.get?, Option.bind_eq_some_iff] at h
      obtain ⟨v, hv, h⟩ := h
      exact ih (below _ (mem_of_child? hv)) h

theorem mem_setEntry {entries : List (String × Node)} {name : String} {node : Node}
    {e : String × Node} (h : e ∈ setEntry name node entries) : e = (name, node) ∨ e ∈ entries := by
  induction entries with
  | nil => exact .inl (List.mem_singleton.1 h)
  | cons first rest ih =>
    obtain ⟨n, old⟩ := first
    rw [setEntry] at h
    split at h
    · rename_i hn
      exact (List.mem_cons.1 h).imp (hn ▸ ·) (List.mem_cons_of_mem _)
    · rcases List.mem_cons.1 h with rfl | hrest
      · exact .inr List.mem_cons_self
      · exact (ih hrest).imp_right (List.mem_cons_of_mem _)

theorem nodup_setEntry {entries : List (String × Node)} {name : String} {node : Node}
    (h : (entries.map Prod.fst).Nodup) : ((setEntry name node entries).map Prod.fst).Nodup := by
  induction entries with
  | nil => simp [setEntry]
  | cons first rest ih =>
    obtain ⟨n, old⟩ := first
    rw [setEntry]
    split
    · exact h
    · rename_i hn
      rw [List.map_cons, List.nodup_cons] at h ⊢
      refine ⟨fun hmem => ?_, ih h.2⟩
      obtain ⟨e, he, heq⟩ := List.mem_map.1 hmem
      rcases mem_setEntry he with rfl | he
      · exact hn heq.symm
      · exact h.1 (heq ▸ List.mem_map_of_mem he)

/-- A tree stays regular when a regular one is put at a plain place. -/
theorem Regular.put {new t : Node} (ht : t.Regular) (hnew : new.Regular) {names : List String}
    (hn : ".." ∉ names) : (put new names t).Regular := by
  induction names generalizing t with
  | nil => exact hnew
  | cons name rest ih =>
    simp only [List.mem_cons, not_or] at hn
    cases ht with
    | file content => exact .file content
    | folder entries nodup plain below =>
      have hchild : ((child? name entries).getD (.folder [])).Regular := by
        cases hc : child? name entries with
        | none => exact .folder [] List.nodup_nil (by simp) (by simp)
        | some u => exact below _ (mem_of_child? hc)
      refine .folder _ (nodup_setEntry nodup) (fun hup => ?_) fun e he => ?_
      · obtain ⟨e, he, heq⟩ := List.mem_map.1 hup
        rcases mem_setEntry he with rfl | he
        · exact hn.1 heq.symm
        · exact plain (heq ▸ List.mem_map_of_mem he)
      · rcases mem_setEntry he with rfl | he
        · exact ih hchild hn.2
        · exact below e he

theorem mem_filesIn {skip : String → Bool} {entries : List (String × Node)} {names : List String} :
    names ∈ filesIn skip entries ↔
      ∃ name node rest, (name, node) ∈ entries ∧ names = name :: rest ∧
        ¬ (node.isFolder ∧ skip name) ∧ rest ∈ files skip node := by
  induction entries with
  | nil => simp [filesIn]
  | cons e entries ih =>
    obtain ⟨first, child⟩ := e
    rw [filesIn, List.mem_append, ih, List.mem_map]
    constructor
    · rintro (⟨rest, hrest, rfl⟩ | ⟨name, node, rest, hmem, hfound⟩)
      · refine ⟨first, child, rest, List.mem_cons_self, rfl, ?_⟩
        split at hrest
        case isTrue => cases hrest
        case isFalse hopen => exact ⟨by simpa using hopen, hrest⟩
      · exact ⟨name, node, rest, List.mem_cons_of_mem _ hmem, hfound⟩
    · rintro ⟨name, node, rest, hmem, rfl, hopen, hrest⟩
      rcases List.mem_cons.1 hmem with heq | hmem
      · cases heq
        refine Or.inl ⟨rest, ?_, rfl⟩
        rwa [if_neg (by simpa using hopen)]
      · exact Or.inr ⟨name, node, rest, hmem, rfl, hopen, hrest⟩

/-- What discovery finds is a file, and the way to it is plain. -/
theorem Regular.get?_of_mem_files {skip : String → Bool} {t : Node} (ht : t.Regular)
    {names : List String} (h : names ∈ files skip t) :
    (∃ content, t.get? names = some (.file content)) ∧ ".." ∉ names := by
  induction ht generalizing names with
  | file content =>
    obtain rfl : names = [] := by simpa [files] using h
    exact ⟨⟨content, rfl⟩, by simp⟩
  | folder entries nodup plain below ih =>
    rw [files] at h
    obtain ⟨name, node, rest, hmem, rfl, -, hrest⟩ := mem_filesIn.1 h
    obtain ⟨⟨content, hget⟩, hplain⟩ := ih _ hmem hrest
    have hname : ".." ≠ name := fun h => plain (h ▸ List.mem_map_of_mem hmem)
    refine ⟨⟨content, ?_⟩, ?_⟩
    · simp [Node.get?, child?_of_mem nodup hmem, hget]
    · simp [hname, hplain]

theorem nodup_filesIn {skip : String → Bool} {entries : List (String × Node)}
    (nodup : (entries.map Prod.fst).Nodup) (h : ∀ e ∈ entries, (files skip e.2).Nodup) :
    (filesIn skip entries).Nodup := by
  induction entries with
  | nil => simp [filesIn]
  | cons e rest ih =>
    obtain ⟨name, node⟩ := e
    simp only [List.map_cons, List.nodup_cons] at nodup
    rw [filesIn]
    apply List.Nodup.append
    · apply List.Nodup.map List.cons_injective
      split
      · exact List.nodup_nil
      · exact h _ List.mem_cons_self
    · exact ih nodup.2 fun e he => h e (List.mem_cons_of_mem _ he)
    · intro names hhere hrest
      obtain ⟨_, _, rfl⟩ := List.mem_map.1 hhere
      obtain ⟨other, node', _, hmem, heq, _⟩ := mem_filesIn.1 hrest
      cases heq
      exact nodup.1 (List.mem_map_of_mem hmem)

/-- Discovery finds every file once. -/
theorem Regular.nodup_files {skip : String → Bool} {t : Node} (ht : t.Regular) :
    (files skip t).Nodup := by
  induction ht with
  | file content => simp [files]
  | folder entries nodup plain below ih => exact nodup_filesIn nodup ih

end Node

namespace Disk

/-- Writing a file at a plain path keeps the tree regular. -/
theorem regular_of_write {d d' : Disk} {p : Path} (hp : p.Plain) (hregular : d.top.Regular)
    {content : ByteArray} (h : d.write p content = .ok d') : d'.top.Regular := by
  rw [write] at h
  split at h
  · cases h
  · rename_i names old hplace
    cases hg : d.top.get? p.parts with
    | none => exact absurd hplace (follow_ne_taken hp.2 hg)
    | some u =>
      rw [place_taken hp hg] at hplace
      cases hplace
      cases h
      exact hregular.put (.file content) hp.2
  · rename_i names hplace
    cases h
    obtain ⟨rfl, -, -⟩ := follow_free hp.2 hplace
    exact hregular.put (.file content) hp.2
  · cases h
  · cases h

theorem regular_of_makeFolderOnce {d d' : Disk} {p : Path} (hp : p.Plain)
    (hregular : d.top.Regular) (h : d.makeFolderOnce p = .ok d') : d'.top.Regular := by
  rcases makeFolderOnce_eq_ok hp h with ⟨-, rfl⟩ | ⟨-, -, rfl⟩
  · exact hregular
  · exact hregular.put (.folder [] List.nodup_nil (by simp) (by simp)) hp.2

/-- So does making a folder. -/
theorem regular_of_ensureFolder {d d' : Disk} {p : Path} (hp : p.Plain)
    (hregular : d.top.Regular) (h : d.ensureFolder p = .ok d') : d'.top.Regular := by
  rw [ensureFolder] at h
  split at h
  · rename_i made honce
    cases h
    exact regular_of_makeFolderOnce hp hregular honce
  · split at h
    · rename_i hmissing
      have hlt := Path.parent_length_lt hmissing.2
      cases hparent : d.ensureFolder p.parent with
      | error e => simp [hparent, bind, Except.bind] at h
      | ok d₁ =>
        simp only [hparent, bind, Except.bind] at h
        exact regular_of_makeFolderOnce hp (regular_of_ensureFolder hp.parent hregular hparent) h
    · cases h
termination_by p.parts.length
decreasing_by assumption

theorem collect_eq {d : Disk} {root : Path} (hroot : root.Plain)
    {entries : List (String × Node)} (h : d.top.get? root.parts = some (.folder entries))
    (excluded : List String) (suffixes : Option (List String)) :
    d.collect root excluded suffixes =
      Path.sort (((Node.filesIn (isSkipped excluded) entries).filter fun names =>
        hasSuffix suffixes (names.getLast?.getD "")).map root.below) := by
  rw [collect, node?_eq hroot, h]
  rfl

/-- What is collected below a folder is a file there, and the way to it is plain. -/
theorem exists_of_mem_collect {d : Disk} {root : Path} (hroot : root.Plain)
    (hregular : d.top.Regular) (hfolder : d.lookup? root.parts = some .folder)
    {excluded : List String} {suffixes : Option (List String)} {p : Path}
    (h : p ∈ d.collect root excluded suffixes) :
    ∃ names content, p = root.below names ∧ ".." ∉ names ∧
      d.lookup? (root.parts ++ names) = some (.file content) := by
  obtain ⟨entries, hentries⟩ := Node.lookup?_eq_folder.1 hfolder
  rw [collect_eq hroot hentries, Path.sort, List.mem_mergeSort, List.mem_map] at h
  obtain ⟨names, hnames, rfl⟩ := h
  have hfound := (hregular.get? hentries).get?_of_mem_files (List.mem_filter.1 hnames).1
  obtain ⟨⟨content, hget⟩, hplain⟩ := hfound
  refine ⟨names, content, rfl, hplain, ?_⟩
  rw [lookup?, Node.lookup?_eq_file, Node.get?_append_of_get? hentries, hget]

theorem nodup_collect {d : Disk} {root : Path} (hroot : root.Plain) (hregular : d.top.Regular)
    (hfolder : d.lookup? root.parts = some .folder) (excluded : List String)
    (suffixes : Option (List String)) : (d.collect root excluded suffixes).Nodup := by
  obtain ⟨entries, hentries⟩ := Node.lookup?_eq_folder.1 hfolder
  rw [collect_eq hroot hentries, Path.sort, (List.mergeSort_perm _ _).nodup_iff]
  have hnodup : (Node.filesIn (isSkipped excluded) entries).Nodup :=
    (hregular.get? hentries).nodup_files
  exact (hnodup.filter _).map (Path.below_injective root)

/-- Source files are files of the project. -/
theorem mem_projectFiles_of_mem_sourceFiles {d : Disk} {root : Path} (hroot : root.Plain)
    (hfolder : d.lookup? root.parts = some .folder) {p : Path} (h : p ∈ d.sourceFiles root) :
    p ∈ d.projectFiles root := by
  obtain ⟨entries, hentries⟩ := Node.lookup?_eq_folder.1 hfolder
  rw [sourceFiles, collect_eq hroot hentries, Path.sort, List.mem_mergeSort, List.mem_map] at h
  rw [projectFiles, collect_eq hroot hentries, Path.sort, List.mem_mergeSort, List.mem_map]
  obtain ⟨names, hnames, rfl⟩ := h
  exact ⟨names, by simpa [hasSuffix] using (List.mem_filter.1 hnames).1, rfl⟩

end Disk

end Pseudonym.Files
