import Pseudonym.Proofs.Name.Accessor
import Pseudonym.Proofs.Renaming.Workflow

/-!
# Usable names

A name is usable when it is an identifier, no keyword, and no reserved word in lower case. The name
for which a plan is made was checked; the names that the cascade derives from it were not. Two
things can go wrong with these (`usable_committed_iff`). An accessor is always an identifier, but
its verb and the property may make up a reserved word such as `setAttr`; few reserved words start
like that. The parameter of a setter gets the name without its underscores, which need not be usable
where the name is, as when the field becomes `_class` (`keyword_committed_account`).
-/

namespace Pseudonym

open Text Pseudonym.Graph

namespace Name

/-- A name that may be written in a program. -/
structure Usable (name : String) : Prop where
  identifier : isIdentifier name
  not_keyword : name ∉ keywords
  not_reserved : lower name ∉ reservedWords

/-- Every keyword is reserved. -/
theorem lower_mem_reservedWords : ∀ name ∈ keywords, lower name ∈ reservedWords := by
  decide +kernel

theorem usable_iff {name : String} :
    Usable name ↔ isIdentifier name ∧ lower name ∉ reservedWords :=
  ⟨fun h => ⟨h.identifier, h.not_reserved⟩,
    fun ⟨hid, hres⟩ => ⟨hid, fun hkey => hres (lower_mem_reservedWords name hkey), hres⟩⟩

instance (name : String) : Decidable (Usable name) := decidable_of_iff' _ usable_iff

/-- The reserved words that start like an accessor. -/
def reservedAccessors : List String :=
  ["getattr", "is", "isadirectoryerror", "isinstance", "issubclass", "set", "setattr"]

/-- The only reserved word with an underscore in front is the underscore, and the words that start
with a verb are those listed. -/
theorem reservedWords_start : reservedWords.all fun word =>
    (word.toList.head? ≠ some '_' || word.toList.length = 1) &&
      Verb.all.all fun verb =>
        !verb.word.toList.isPrefixOf word.toList || reservedAccessors.contains word := by
  decide +kernel

theorem reservedAccessors_subset : reservedAccessors ⊆ reservedWords := by decide

/-- An accessor is reserved only if it is one of the listed words. -/
theorem Accessor.reserved_withProperty {method : String} {a : Accessor}
    (ha : accessor? method = some a) {property : String} (h : Continues property)
    (hmem : lower (a.withProperty property) ∈ reservedWords) :
    lower (a.withProperty property) ∈ reservedAccessors := by
  obtain ⟨rest, hlower⟩ := lower_withProperty ha h
  have hstart := List.all_eq_true.1 reservedWords_start _ hmem
  rw [Bool.and_eq_true, List.all_eq_true, hlower] at hstart
  obtain ⟨hunderscore, hverbs⟩ := hstart
  cases hcs : a.leading.toList with
  | nil =>
      have hverb := hverbs a.verb (by cases a.verb <;> decide)
      rw [hcs, List.nil_append, List.isPrefixOf_iff_prefix.2 (List.prefix_append _ _),
        Bool.not_true, Bool.false_or] at hverb
      exact List.contains_iff_mem.1 hverb
  | cons c cs =>
      -- The verb follows the underscore, so the word is longer than one character.
      obtain rfl : c = '_' := mem_leading ha (hcs ▸ List.mem_cons_self)
      have hword := List.length_pos_iff.2 (word_ne_nil a.verb)
      rw [hcs, Bool.or_eq_true, decide_eq_true_eq, decide_eq_true_eq] at hunderscore
      rcases hunderscore with hhead | hone
      · exact absurd rfl hhead
      · simp only [List.cons_append, List.length_cons, List.length_append] at hone
        omega

theorem continues_property {name : String} (h : Continues name) : Continues (property name) := by
  unfold property
  split
  · exact h
  · intro c hc
    exact h c (mem_of_mem_body hc)

end Name

open Name

/-- A name that is accepted is usable. -/
theorem usable_of_accepted {current name : String}
    (h : rejection? reservedWords current name = none) : Usable name := by
  unfold rejection? at h
  split_ifs at h with _ hreserved hidentifier
  refine usable_iff.2 ⟨?_, fun hmem => hreserved (List.contains_iff_mem.2 hmem)⟩
  simpa using (not_or.1 hidentifier).1

namespace Workflow

variable {policy : Policy} {g g' : Graph} {s : Symbol} {p : Plan}

/-- An entry gets a name that was checked, a name that an accessor has for the new property, or the
property itself. -/
theorem Commit.entry_name (hg : g.WellFormed) (hc : Commit policy g s p g') {e : Rename}
    (he : e ∈ p.entries) :
    e.name = p.name ∨ e.name = property p.name ∨
      ∃ method a, accessor? method = some a ∧ e.name = a.withProperty (property p.name) := by
  rcases hc.planFor.entry e he with rfl | hdrag
  · exact Or.inl rfl
  · cases hdrag with
    | overrider => exact Or.inl rfl
    | follower hf hr =>
        obtain ⟨m, -, rfl | hparameter⟩ := hr
        · obtain ⟨-, hspelled⟩ := Cascade.mem_settled hf
          exact Or.inr (Or.inr ⟨_, _, hspelled.spelling_eq, hspelled.name_eq⟩)
        · obtain ⟨q, -, rfl, -⟩ := Cascade.mem_setterParameter hg hparameter
          exact Or.inr (Or.inl rfl)

variable {σ : Type} [Candidates σ]

/-- **Usable names.** A committed plan gives usable names exactly when no accessor in it becomes a
reserved word and the name without its underscores is usable for a parameter that gets it. -/
theorem usable_committed_iff (w : Workflow σ) (program : Program) (hg : program.graph.WellFormed)
    (hs : s ∈ program.graph.symbols) (hreserved : w.policy.reserved = reservedWords)
    (hstate : (w.process program s).1.state = .committed) :
    ∃ p, (w.process program s).1.plan = some p ∧ Usable p.name ∧
      ((∀ e ∈ p.entries, Usable e.name) ↔
        (∀ e ∈ p.entries, lower e.name ∉ reservedAccessors) ∧
          ((∃ e ∈ p.entries, e.name = property p.name) → Usable (property p.name))) := by
  rcases process_cases w hg hs with ⟨-, hnot, -⟩ | ⟨p, hplan, -, hcommit⟩
  · exact absurd hstate hnot
  · have hname : Usable p.name := usable_of_accepted (hreserved ▸ hcommit.accepted)
    have hcontinues : Continues (property p.name) :=
      continues_property (continues_of_isIdentifier hname.identifier)
    refine ⟨p, hplan, hname, ?_, ?_⟩
    · intro hall
      refine ⟨fun e he hmem => (hall e he).not_reserved (reservedAccessors_subset hmem), ?_⟩
      rintro ⟨e, he, heq⟩
      exact heq ▸ hall e he
    · rintro ⟨hfree, hproperty⟩ e he
      rcases hcommit.entry_name hg he with heq | heq | ⟨method, a, ha, heq⟩
      · exact heq ▸ hname
      · exact heq ▸ hproperty ⟨e, he, heq⟩
      · have hfree := hfree e he
        rw [heq] at hfree ⊢
        exact usable_iff.2 ⟨Accessor.isIdentifier_withProperty ha hcontinues,
          fun hmem => hfree (Accessor.reserved_withProperty ha hcontinues hmem)⟩

/-- A field with a setter whose parameter is spelled like the property. -/
def account : Graph where
  scopes := [
    { id := "Account", kind := .type, owner := some "::Account" },
    { id := "Account.set_sum", kind := .function, parent := some "Account" }]
  symbols := [
    { id := "::Account", name := "Account", kind := .type },
    { id := "Account::sum", name := "_sum", kind := .variable, visibility := .prot,
      scope := some "Account", isField := true },
    { id := "Account::set_sum", name := "_set_sum", kind := .method, visibility := .prot,
      scope := some "Account", parameters := ["Account.set_sum::sum"] },
    { id := "Account.set_sum::sum", name := "sum", kind := .variable, visibility := .priv,
      scope := some "Account.set_sum", isLocal := true }]
  naming := ["::Account", "Account::sum", "Account::set_sum", "Account.set_sum::sum"]

/-- The field of the account. -/
def accountSum : Symbol := account.symbols.get ⟨1, by decide⟩

/-- What a workflow commits for the field when one name is proposed. -/
def accountPlan? (name : String) : Option Plan :=
  ((proposing [name]).process { graph := account } accountSum).1.plan

/-- The plan that makes the field of the account the property `name`. -/
def accountPlan (name : String) : Plan where
  primary := "Account::sum"
  name := "_" ++ name
  cascade := [⟨"Account::set_sum", "_set_" ++ name⟩, ⟨"Account.set_sum::sum", name⟩]

/-- The setter and its parameter follow the field, and their new names are usable. -/
theorem usable_committed_iff_account :
    accountPlan? "total" = some (accountPlan "total") ∧
      ∀ e ∈ (accountPlan "total").entries, Usable e.name := by
  have hcommit : accountPlan? "total" = some (accountPlan "total") := by decide +kernel
  obtain ⟨p, hplan, -, hiff⟩ := usable_committed_iff (proposing ["total"]) { graph := account }
    (by decide +kernel) (s := accountSum) (by decide +kernel) rfl (by decide +kernel)
  obtain rfl : p = accountPlan "total" := Option.some.inj (hplan.symm.trans hcommit)
  exact ⟨hcommit, hiff.2 (by decide +kernel)⟩

/-- A proposed name is checked with the underscores of the field, and without them the parameter of
the setter gets a keyword for its name. -/
theorem keyword_committed_account :
    accountPlan? "class" = some (accountPlan "class") ∧
      ¬ ∀ e ∈ (accountPlan "class").entries, Usable e.name := by
  have hkeyword : ¬ Usable "class" := fun h => h.not_keyword (by decide)
  refine ⟨by decide +kernel, fun h => hkeyword ?_⟩
  exact h ⟨"Account.set_sum::sum", "class"⟩ (by decide +kernel)

end Workflow

end Pseudonym
