import Pseudonym.Proofs.Model.Tokens
import Pseudonym.Proofs.Name.Style
import Pseudonym.Proofs.Renaming.Contract

/-!
# Renaming and mangled names

A name with two underscores in front and not two at the end is mangled inside its class, so a new
name that is mangled where the old one was not (or the other way round) means something else. A
candidate takes the underscores of the old name to its front and has none at its end
(`Name.Follows`): it is mangled if the old name starts with two underscores. A committed name is
such a candidate, however many attempts came before it (`exists_candidate`). Thus mangling is kept
unless the old name has two underscores at both ends. Where every dunder name counts as synthesized,
as it does in a program that was read from its text, only names of two, three or four underscores
and nothing else are left of these (`mangled_after_iff`).
-/

namespace Pseudonym

/-! ## Names that follow another one -/

namespace Name

/-- A name with the underscores of another one in front, and behind them something that has no
underscores at its ends. -/
def Follows (old name : String) : Prop :=
  ∃ rest, name = leading old ++ rest ∧ rest ≠ "" ∧ Flanked rest.toList

namespace Follows

variable {old name : String} (h : Follows old name)
include h

theorem leading_eq : leading name = leading old := by
  obtain ⟨rest, rfl, -, hrest⟩ := h
  rw [leading_append (fun _ => mem_leading) hrest.head (String.toList_append ..),
    String.ofList_toList]

theorem isMangled_iff_startsWith : isMangled name ↔ old.startsWith "__" := by
  obtain ⟨rest, rfl, hne, hrest⟩ := h
  rw [startsWith_iff_leading]
  exact isMangled_append (fun _ => mem_leading) hrest (by simpa using hne)
    (String.toList_append ..)

/-- Only two underscores at the end of the old name make a difference. -/
theorem isMangled_alike_iff :
    (isMangled name ↔ isMangled old) ↔ ¬ (old.startsWith "__" ∧ old.endsWith "__") := by
  rw [h.isMangled_iff_startsWith, isMangled_iff]
  tauto

end Follows

end Name

namespace Workflow

/-! ## Candidates of a sampler -/

/-- What a sampler spells for a symbol. -/
def spelled (source : Sampler) (s : Symbol) : String :=
  Name.spell source.convention s.kind (s.kind = .variable && s.isConstant)
    (source.chain.sample s.kind source.random).1

theorem candidate_eq (source : Sampler) (s : Symbol) : (candidate source s).1 =
    if spelled source s = "" then "" else Name.leading s.name ++ spelled source s := rfl

/-- What a trained chain proposes follows the name of the symbol, unless it is nothing. -/
theorem candidate_follows {source : Sampler} (h : source.chain.Trained) (s : Symbol) :
    (candidate source s).1 = "" ∨ Name.Follows s.name (candidate source s).1 := by
  rw [candidate_eq]
  split
  · exact Or.inl rfl
  · next hne =>
      refine Or.inr ⟨spelled source s, rfl, hne, ?_⟩
      exact Name.flanked_spell (h.sample_bare s.kind source.random) source.convention s.kind _

theorem candidate_chain (source : Sampler) (s : Symbol) :
    (candidate source s).2.chain = source.chain := rfl

/-! ## The candidate that is committed -/

section Source

variable {σ : Type} [Candidates σ] {P : σ → Prop}

/-- What proposing keeps of a source is kept by an attempt, whatever becomes of it. -/
theorem Tries.keeps {policy : Policy} {s : Symbol} {start last : Program × σ} {a : Attempt}
    (h : Tries policy s start a last) (hP : ∀ source, P source → P (candidate source s).2)
    (hstart : P start.2) : P last.2 := by
  cases h with
  | rejected proposed =>
      have hnext := hP _ hstart
      rwa [proposed] at hnext
  | refused proposed =>
      have hnext := hP _ hstart
      rwa [proposed] at hnext
  | committed proposed =>
      have hnext := hP _ hstart
      rwa [proposed] at hnext

theorem Tries.candidate_eq {policy : Policy} {s : Symbol} {start last : Program × σ} {name : String}
    {p : Plan} (h : Tries policy s start (.committed name p) last) :
    (candidate start.2 s).1 = name := by
  cases h with
  | committed proposed => exact congrArg Prod.fst proposed

theorem Trail.keeps {policy : Policy} {s : Symbol} {start last : Program × σ}
    {log : List Attempt} (h : Trail policy s start log last)
    (hP : ∀ source, P source → P (candidate source s).2) (hstart : P start.2) : P last.2 := by
  induction h with
  | nil => exact hstart
  | cons first _ ih => exact ih (first.keeps hP hstart)

/-- A committed name was proposed by the source, in a state that it came to by proposing. -/
theorem exists_candidate (w : Workflow σ) (program : Program) (s : Symbol)
    (hP : ∀ source, P source → P (candidate source s).2) (hsource : P w.source)
    (hcommit : (w.process program s).1.state = .committed) :
    ∃ source, P source ∧ (w.process program s).1.newName = some (candidate source s).1 := by
  obtain ⟨log, htrail, ⟨-, -, hr⟩ | ⟨-, hsearched⟩⟩ := process_trail w program s
  · rw [hr] at hcommit
    cases hcommit
  · rcases hsearched.ending with ⟨hstate, -⟩ | ⟨failed, name, p, rfl, -, -, -, hname, -⟩
    · rw [hstate] at hcommit
      cases hcommit
    · obtain ⟨before, hbefore, hlast⟩ := htrail.of_concat
      refine ⟨before.2, hbefore.keeps hP hsource, ?_⟩
      rw [hname, hlast.candidate_eq]

end Source

/-- Nothing is no name. -/
theorem ne_empty_of_accepted {reserved : List String} {current name : String}
    (h : rejection? reserved current name = none) : name ≠ "" := by
  rintro rfl
  unfold rejection? at h
  rw [if_pos (by simp)] at h
  cases h

theorem Commit.not_isSynthesized {policy : Policy} {g g' : Graph} {s : Symbol} {p : Plan}
    (hc : Commit policy g s p g') : ¬ s.isSynthesized := by
  have hlater := hc.later
  unfold Filter.laterRule at hlater
  split_ifs at hlater with _ _ hsynthesized
  exact hsynthesized

/-! ## Mangling -/

/-- The new name of a symbol that a sampler renames follows the old one, and it is not nothing. -/
theorem follows_of_committed {w : Workflow Sampler} (hchain : w.source.chain.Trained)
    {program : Program} (hg : program.graph.WellFormed) {s : Symbol}
    (hs : s ∈ program.graph.symbols)
    (hcommit : (w.process program s).1.state = .committed) :
    ∃ p, (w.process program s).1.newName = some p.name ∧
      Commit w.policy program.graph s p (w.process program s).2.2.graph ∧
      Name.Follows s.name p.name := by
  rcases process_commit w hg hs with ⟨-, -, hnot, -⟩ | ⟨p, hname, -, -, hc, -⟩
  · exact absurd hcommit hnot
  · have hkeeps : ∀ source : Sampler, source.chain.Trained →
        (candidate source s).2.chain.Trained := by
      intro source h
      rw [candidate_chain]
      exact h
    obtain ⟨source, hsource, hproposed⟩ := exists_candidate w program s hkeeps hchain hcommit
    rw [hname, Option.some.injEq] at hproposed
    have hfollows := candidate_follows hsource s
    rw [← hproposed] at hfollows
    exact ⟨p, hname, hc, hfollows.resolve_left (ne_empty_of_accepted hc.accepted)⟩

/-- **Mangling.** A new name has as many underscores in front as the old one. It is mangled where the
old one was exactly if the old one has not two underscores at both ends; and where dunder names are
synthesized, exactly if the old one is not two, three or four underscores and nothing else. -/
theorem mangled_after_iff {w : Workflow Sampler} (hchain : w.source.chain.Trained)
    {program : Program} (hg : program.graph.WellFormed) {s : Symbol}
    (hs : s ∈ program.graph.symbols)
    (hcommit : (w.process program s).1.state = .committed) :
    ∃ name, (w.process program s).1.newName = some name ∧
      (w.process program s).2.2.graph.nameOf s.id = name ∧
      Name.leading name = Name.leading s.name ∧
      ((Name.isMangled name ↔ Name.isMangled s.name) ↔
        ¬ (s.name.startsWith "__" ∧ s.name.endsWith "__")) ∧
      ((Name.isDunder s.name → s.isSynthesized) →
        ((Name.isMangled name ↔ Name.isMangled s.name) ↔ s.name ∉ ["__", "___", "____"])) := by
  obtain ⟨p, hname, hc, hfollows⟩ := follows_of_committed hchain hg hs hcommit
  refine ⟨p.name, hname, hc.nameOf_primary hg, hfollows.leading_eq, hfollows.isMangled_alike_iff,
    fun hdunder => ?_⟩
  have hplain : ¬ Name.isDunder s.name := fun h => hc.not_isSynthesized (hdunder h)
  rw [hfollows.isMangled_alike_iff, Name.startsWith_and_endsWith_iff, or_iff_right hplain]

/-! ## A class with a mangled name and one of underscores only -/

/-- With one attempt, an outcome depends on nothing but the first candidate of the source. -/
theorem process_congr {σ τ : Type} [Candidates σ] [Candidates τ] {w : Workflow σ} {v : Workflow τ}
    (hpolicy : w.policy = v.policy) (hone : v.policy.maxAttempts = 1) (program : Program)
    {s : Symbol} (hcandidate : (candidate w.source s).1 = (candidate v.source s).1) :
    (w.process program s).1 = (v.process program s).1 := by
  unfold process
  rw [hpolicy, hone]
  rcases v.policy.filter.check program.graph s with ⟨verdict, graph⟩
  dsimp only
  split
  · unfold search
    rcases hw : candidate w.source s with ⟨name, source⟩
    rcases hv : candidate v.source s with ⟨name', source'⟩
    rw [hw, hv] at hcandidate
    obtain rfl : name = name' := hcandidate
    dsimp only
    split
    · rfl
    · split
      · rfl
      · rfl
  · rfl

/-- Two class variables. -/
def hub : Graph where
  scopes := [{ id := "Hub", kind := .type, owner := some "::Hub" }]
  symbols := [
    { id := "::Hub", name := "Hub", kind := .type },
    { id := "Hub::__size", name := "__size", kind := .variable, visibility := .priv,
      scope := some "Hub", isField := true },
    { id := "Hub::__", name := "__", kind := .variable, visibility := .prot, scope := some "Hub",
      isField := true }]
  naming := ["::Hub", "Hub::__size", "Hub::__"]

/-- A variable of the class. -/
def hubVariable (name : String) (visibility : Visibility) : Symbol :=
  { id := "Hub::" ++ name, name, kind := .variable, visibility, scope := some "Hub",
    isField := true }

/-- A chain that was trained with one name and frozen. -/
def loading : Model.Chain where
  maxTokens := 8
  ofVariables := ⟨[("", [("load", 1)]), ("load", [("", 1)])]⟩
  frozen := true
  trained := 1

theorem loading_trained : loading.Trained := by
  have hwords : Name.words "load" = ["load"] := by decide +kernel
  have htrain : Model.Chain.train { maxTokens := 8 } .variable "load" =
      .ok (true, { loading with frozen := false }) := by
    simp only [Model.Chain.train, hwords]
    rfl
  exact .freeze (.train (@Model.Chain.Trained.new 8 _ rfl) htrain)

/-- Samples of a sampler of this chain, one attempt for each symbol. -/
def loader (random : Random.Twister) : Workflow Sampler :=
  { policy := { maxAttempts := 1 }, source := { chain := loading, random, convention := .snake } }

theorem sample_loading (random : Random.Twister) :
    (loading.sample .variable random).1 = ["load"] := by
  have hstart : ((loading.table .variable).row Model.terminator).map Prod.fst = ["load"] := by
    decide +kernel
  have hend : ((loading.table .variable).row "load").map Prod.fst = [Model.terminator] := by
    decide +kernel
  obtain ⟨next, hfirst⟩ := Model.Chain.walk_of_single hstart 7 random
  obtain ⟨_, hlast⟩ := Model.Chain.walk_of_single hend 6 next
  show (Model.Chain.walk (loading.table .variable) 8 Model.terminator random).1 = _
  rw [hfirst, hlast, if_neg (by decide), if_pos rfl]

/-- Whatever is drawn, the sampler proposes what a script of one name does. -/
theorem process_loader (random : Random.Twister) (name : String) (visibility : Visibility) :
    ((loader random).process { graph := hub } (hubVariable name visibility)).1 =
      ((proposing ["load"] { maxAttempts := 1 }).process { graph := hub }
        (hubVariable name visibility)).1 := by
  have hpolicy : (loader random).policy = (proposing ["load"] { maxAttempts := 1 }).policy := rfl
  have hspelled : spelled (loader random).source (hubVariable name visibility) = "load" := by
    have hspell : Name.spell .snake .variable false ["load"] = "load" := by decide +kernel
    show Name.spell .snake .variable false (loading.sample .variable random).1 = "load"
    rw [sample_loading, hspell]
  refine process_congr hpolicy rfl { graph := hub } ?_
  rw [candidate_eq, hspelled]
  rfl

theorem newName_loader (random : Random.Twister) :
    ∀ s ∈ [hubVariable "__size" .priv, hubVariable "__" .prot],
      ((loader random).process { graph := hub } s).1.state = .committed ∧
        ((loader random).process { graph := hub } s).1.newName = some "__load" := by
  have hscript : ∀ s ∈ [hubVariable "__size" .priv, hubVariable "__" .prot],
      let o := ((proposing ["load"] { maxAttempts := 1 }).process { graph := hub } s).1
      o.state = .committed ∧ o.newName = some "__load" := by decide +kernel
  intro s hs
  have ho := hscript s hs
  simp only [List.mem_cons, List.not_mem_nil, or_false] at hs
  rcases hs with rfl | rfl
  · rw [process_loader]
    exact ho
  · rw [process_loader]
    exact ho

/-- The variable with a mangled name gets another one. -/
theorem mangled_after_iff_size :
    let w := loader (.ofSeed 1)
    let r := w.process { graph := hub } (hubVariable "__size" .priv)
    (w.source.chain.Trained ∧ hub.WellFormed ∧ hubVariable "__size" .priv ∈ hub.symbols ∧
        r.1.state = .committed) ∧
      r.1.newName = some "__load" ∧ r.2.2.graph.nameOf "Hub::__size" = "__load" ∧
      Name.leading "__load" = "__" ∧ Name.isMangled "__size" ∧ Name.isMangled "__load" := by
  have hg : hub.WellFormed := by decide +kernel
  have hs : hubVariable "__size" .priv ∈ hub.symbols := by decide +kernel
  obtain ⟨hcommit, hnew⟩ := newName_loader (.ofSeed 1) _ List.mem_cons_self
  obtain ⟨name, hname, hafter, hleading, halike, -⟩ :=
    @mangled_after_iff (loader (.ofSeed 1)) loading_trained { graph := hub } hg _ hs hcommit
  obtain rfl : "__load" = name := Option.some.inj (hnew.symm.trans hname)
  have hold : Name.isMangled "__size" := by decide +kernel
  have hends : ¬ ("__size".startsWith "__" ∧ "__size".endsWith "__") := by decide +kernel
  have hlead : Name.leading "__size" = "__" := by decide +kernel
  exact ⟨⟨loading_trained, hg, hs, hcommit⟩, hname, hafter, hleading.trans hlead, hold,
    (halike.2 hends).2 hold⟩

/-- The variable whose name is two underscores gets a mangled name, which it had not before. -/
theorem not_mangled_alike_underscores :
    ¬ ∀ (w : Workflow Sampler) (program : Program) (s : Symbol), w.source.chain.Trained →
      program.graph.WellFormed → s ∈ program.graph.symbols →
        (w.process program s).1.state = .committed →
          ∀ name ∈ (w.process program s).1.newName,
            Name.leading name = Name.leading s.name ∧
              (Name.isMangled name ↔ Name.isMangled s.name) := by
  intro h
  have hg : hub.WellFormed := by decide +kernel
  have hs : hubVariable "__" .prot ∈ hub.symbols := by decide +kernel
  obtain ⟨hcommit, hnew⟩ :=
    newName_loader (.ofSeed 1) _ (List.mem_cons_of_mem _ List.mem_cons_self)
  obtain ⟨-, halike⟩ := h _ { graph := hub } _ loading_trained hg hs hcommit "__load" hnew
  have hold : ¬ Name.isMangled "__" := by decide +kernel
  exact hold (halike.1 (by decide +kernel))

end Workflow

end Pseudonym
