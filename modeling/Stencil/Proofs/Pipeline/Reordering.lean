import Mathlib.Data.List.Forall2
import Stencil.Digest.Xxh64
import Stencil.Generator.Recipe
import Stencil.Proofs.Pipeline.Accounting
import Stencil.Proofs.Pipeline.Journal

/-!
# The order of candidates and generators does not matter

A pass goes through candidates and generators in their order, but what it leaves behind is known by
keys.  Drafts conflict if two of them have the same key, wherever they stand; what becomes of a
draft depends on what is kept under its key; and outputs are sorted by their keys, which are
distinct.  So if candidates, or generators, are put into another order, a pass ends alike.

The main results are

* `Survey.repeated_eq_none_iff`: when findings are free of conflicts;
* `Pipeline.Alike.run_matches`: a pass over the same candidates in another order, by a pipeline with
  the same generators in another order;
* `Pipeline.Alike.after`: pipelines that differ in the order of generators at most stay so;
* `Pipeline.order_irrelevant`: all this, and what becomes of the warnings.
-/

namespace Stencil

/-- Of two keys only one stands before the other. -/
lemma ArtifactKey.Before.asymm {a b : ArtifactKey} (h : a.Before b) : ¬b.Before a := by
  rintro (hba | ⟨hba, hba'⟩)
  · rcases h with hab | ⟨hab, -⟩
    · exact String.lt_asymm hab hba
    · exact String.lt_irrefl _ (hab ▸ hba)
  · rcases h with hab | ⟨-, hab'⟩
    · exact String.lt_irrefl _ (hba ▸ hab)
    · exact String.lt_asymm hab' hba'

/-! ## Findings in another order -/

namespace Survey

/-- Findings are free of conflicts exactly if the drafts that they lead to have distinct keys that
were not seen before. -/
theorem repeated_eq_none_iff {seen : List ArtifactKey} {findings : List Finding} :
    (ofFindings seen findings).repeated = none ↔
      ((findings.filterMap Finding.draft?).map Draft.key).Nodup ∧
        ∀ d ∈ findings.filterMap Finding.draft?, d.key ∉ seen := by
  rw [repeated_eq, firstRepeated?_eq_none_iff]
  simp only [List.forall_mem_map]

variable {findings findings' : List Finding}

lemma repeated_eq_none_of_perm (h : findings.Perm findings')
    (hnone : (ofFindings [] findings).repeated = none) :
    (ofFindings [] findings').repeated = none := by
  have hdrafts := h.filterMap Finding.draft?
  have hnodup := (repeated_eq_none_iff.1 hnone).1
  refine repeated_eq_none_iff.2 ⟨(hdrafts.map Draft.key).nodup_iff.1 hnodup, ?_⟩
  exact fun _ _ => List.not_mem_nil

lemma drafts_perm (h : findings.Perm findings')
    (hnone : (ofFindings [] findings).repeated = none) :
    (ofFindings [] findings).drafts.Perm (ofFindings [] findings').drafts := by
  rw [(eq_of_repeated_eq_none hnone).1,
    (eq_of_repeated_eq_none (repeated_eq_none_of_perm h hnone)).1]
  exact h.filterMap _

lemma skips_perm (h : findings.Perm findings')
    (hnone : (ofFindings [] findings).repeated = none) :
    (ofFindings [] findings).skips.Perm (ofFindings [] findings').skips := by
  rw [(eq_of_repeated_eq_none hnone).2,
    (eq_of_repeated_eq_none (repeated_eq_none_of_perm h hnone)).2]
  exact h.filterMap _

end Survey

namespace Pipeline

/-! ## Pipelines alike -/

/-- Two pipelines differ in the order of their generators, and of what they keep, at most. -/
structure Alike (p q : Pipeline) : Prop where
  generators : p.generators.Perm q.generators
  options : p.options = q.options
  config : p.config = q.config
  kept : ∀ key, p.kept? key = q.kept? key
  cachedUnder : p.cachedUnder = q.cachedUnder
  passes : p.passes = q.passes

variable {p q : Pipeline} {candidates candidates' : List Candidate}

lemma Alike.refl (p : Pipeline) : p.Alike p := ⟨.refl _, rfl, rfl, fun _ => rfl, rfl, rfl⟩

lemma Alike.findings_perm (h : p.Alike q) (hc : candidates.Perm candidates') :
    (p.findings candidates).Perm (q.findings candidates') := by
  refine hc.flatMap fun c _ => ?_
  rw [h.options]
  exact h.generators.map _

/-- Of pipelines that are alike, both find conflicts, or none does. -/
lemma Alike.repeated_eq_none_iff (h : p.Alike q) (hc : candidates.Perm candidates') :
    (p.survey candidates).repeated = none ↔ (q.survey candidates').repeated = none :=
  ⟨Survey.repeated_eq_none_of_perm (h.findings_perm hc),
    Survey.repeated_eq_none_of_perm (h.findings_perm hc).symm⟩

lemma Alike.drafts_perm (h : p.Alike q) (hc : candidates.Perm candidates')
    (hnone : (p.survey candidates).repeated = none) :
    (p.survey candidates).drafts.Perm (q.survey candidates').drafts :=
  Survey.drafts_perm (h.findings_perm hc) hnone

lemma Alike.keys_perm (h : p.Alike q) : p.cache.keys.Perm q.cache.keys :=
  (Table.perm_entries_iff.2 h.kept).map Prod.fst

variable [TextHash]

lemma Alike.verdict_eq (h : p.Alike q) (d : Draft) : p.verdict d = q.verdict d := by
  have hcurrent : p.isCurrent = q.isCurrent := by
    rw [isCurrent, isCurrent, h.cachedUnder, h.options]
  rw [verdict, verdict, h.kept, hcurrent]

lemma Alike.artifact_eq (h : p.Alike q) (d : Draft) : p.artifact d = q.artifact d := by
  rw [artifact, artifact, h.verdict_eq, h.options]

lemma Alike.isRendered_eq (h : p.Alike q) : p.isRendered = q.isRendered := by
  funext d
  rw [isRendered, isRendered, h.verdict_eq]

/-! ## Passes that end alike -/

omit [TextHash] in
/-- Outputs that are sorted by distinct keys are known by what they are. -/
lemma outputs_eq_of_perm {outputs outputs' : List Output} (h : outputs.Perm outputs')
    (hsorted : outputs.Pairwise fun a b => a.key.Before b.key)
    (hsorted' : outputs'.Pairwise fun a b => a.key.Before b.key) : outputs = outputs' := by
  refine h.eq_of_pairwise (fun a b _ _ hab hba => ?_) hsorted hsorted'
  exact absurd hba (ArtifactKey.Before.asymm hab)

lemma Alike.outputs_eq (h : p.Alike q) (hc : candidates.Perm candidates')
    (hnone : (p.survey candidates).repeated = none) :
    (p.afterPass (p.survey candidates).drafts).outputs =
      (q.afterPass (q.survey candidates').drafts).outputs := by
  refine outputs_eq_of_perm ?_ pairwise_before_outputs_afterPass pairwise_before_outputs_afterPass
  rw [outputs_afterPass, outputs_afterPass]
  have hdrafts := h.drafts_perm hc hnone
  have hsorted := calc
    ((p.survey candidates).drafts.mergeSort fun d e => d.key.le e.key).Perm
        (p.survey candidates).drafts := List.mergeSort_perm _ _
    List.Perm _ (q.survey candidates').drafts := hdrafts
    List.Perm _ ((q.survey candidates').drafts.mergeSort fun d e => d.key.le e.key) :=
      (List.mergeSort_perm _ _).symm
  simp only [h.artifact_eq]
  exact hsorted.map _

lemma Alike.afterPass (h : p.Alike q) (hc : candidates.Perm candidates')
    (hnone : (p.survey candidates).repeated = none) :
    (p.afterPass (p.survey candidates).drafts).Alike
      (q.afterPass (q.survey candidates').drafts) where
  generators := h.generators
  options := h.options
  config := h.config
  kept key := by
    have hdrafts := h.drafts_perm hc hnone
    refine Option.ext fun a => ?_
    rw [kept?_afterPass_iff, kept?_afterPass_iff]
    simp only [h.artifact_eq]
    constructor
    · rintro ⟨d, hd, hkey⟩
      exact ⟨d, hdrafts.mem_iff.1 hd, hkey⟩
    · rintro ⟨d, hd, hkey⟩
      exact ⟨d, hdrafts.mem_iff.2 hd, hkey⟩
  cachedUnder := congrArg (fun o : Options => some o.fingerprint) h.options
  passes := congrArg (· + 1) h.passes

lemma Alike.length_removedKeys_eq (h : p.Alike q) (hc : candidates.Perm candidates')
    (hnone : (p.survey candidates).repeated = none) :
    (p.removedKeys (p.survey candidates).drafts).length =
      (q.removedKeys (q.survey candidates').drafts).length := by
  rw [length_removedKeys, length_removedKeys, h.outputs_eq hc hnone]
  exact (h.keys_perm.filter _).length_eq

lemma Alike.stats_eq (h : p.Alike q) (hc : candidates.Perm candidates') {memo memo' : ScanMemo}
    {r r' : Report} (hok : (p.run memo candidates).outcome = .ok r)
    (hok' : (q.run memo' candidates').outcome = .ok r') : r.stats = r'.stats := by
  have hnone := (run_eq_ok hok).1
  have hdrafts := h.drafts_perm hc hnone
  have hskips := Survey.skips_perm (h.findings_perm hc) hnone
  rw [Pipeline.stats_eq hok, Pipeline.stats_eq hok', h.length_removedKeys_eq hc hnone,
    h.isRendered_eq, hc.length_eq]
  simp only [Stats.mk.injEq, true_and, and_true]
  exact ⟨hskips.length_eq, (hdrafts.filter _).length_eq, (hdrafts.filter _).length_eq⟩

end Pipeline

/-- Two passes match: both end in a conflict, or both give the same outputs and numbers; and the
pipelines afterwards are alike. -/
structure Pass.Matches (a b : Pass) : Prop where
  outcome :
    match a.outcome, b.outcome with
    | .error _, .error _ => True
    | .ok r, .ok r' => r.outputs = r'.outputs ∧ r.stats = r'.stats
    | _, _ => False
  pipeline : a.pipeline.Alike b.pipeline

/-- Two commands are the same, except for the order of candidates. -/
inductive Command.Reorders : Command → Command → Prop
  | same (command : Command) : Reorders command command
  | run {candidates candidates' : List Candidate} (h : candidates.Perm candidates') :
      Reorders (.run candidates) (.run candidates')

namespace Pipeline

section Main

variable [TextHash] {p q : Pipeline} {candidates candidates' : List Candidate}

/-- A pass over the same candidates in another order, by a pipeline that is alike, matches. -/
theorem Alike.run_matches (h : p.Alike q) (hc : candidates.Perm candidates')
    (memo memo' : ScanMemo) : (p.run memo candidates).Matches (q.run memo' candidates') := by
  cases hrepeated : (p.survey candidates).repeated with
  | some key =>
    have hconflict : (q.survey candidates').repeated ≠ none := by
      rw [Ne, ← h.repeated_eq_none_iff hc, hrepeated]
      exact Option.some_ne_none key
    obtain ⟨key', hrepeated'⟩ := Option.ne_none_iff_exists'.1 hconflict
    obtain ⟨hrun, hpipeline⟩ := run_of_repeated hrepeated memo
    obtain ⟨hrun', hpipeline'⟩ := run_of_repeated hrepeated' memo'
    refine ⟨?_, ?_⟩
    · rw [hrun, hrun']
      trivial
    · rw [hpipeline, hpipeline']
      exact h
  | none =>
    have hrepeated' := (h.repeated_eq_none_iff hc).1 hrepeated
    obtain ⟨⟨warnings, stats, hrun⟩, hpipeline⟩ := run_of_distinct hrepeated memo
    obtain ⟨⟨warnings', stats', hrun'⟩, hpipeline'⟩ := run_of_distinct hrepeated' memo'
    have hstats := h.stats_eq hc hrun hrun'
    refine ⟨?_, ?_⟩
    · rw [hrun, hrun']
      exact ⟨h.outputs_eq hc hrepeated, hstats⟩
    · rw [hpipeline, hpipeline']
      exact h.afterPass hc hrepeated

/-! ## Warnings -/

lemma Alike.audited_perm (h : p.Alike q) (hc : candidates.Perm candidates') :
    (p.audited candidates).Perm (q.audited candidates') := by
  have hchecked : p.config.validateCoverage = true ∧ (p.survey candidates).repeated = none ↔
      q.config.validateCoverage = true ∧ (q.survey candidates').repeated = none := by
    rw [h.config, h.repeated_eq_none_iff hc]
  unfold audited
  by_cases hp : p.config.validateCoverage = true ∧ (p.survey candidates).repeated = none
  · rw [if_pos hp, if_pos (hchecked.1 hp), h.isRendered_eq]
    exact (h.drafts_perm hc hp.2).filter _
  · rw [if_neg hp, if_neg (mt hchecked.2 hp)]

/-- With memos that hold scans, matching passes warn of the same in another order. -/
lemma Alike.warnings_perm (h : p.Alike q) (hc : candidates.Perm candidates')
    {texts : Set String} (hinj : Set.InjOn TextHash.hash texts) {memo memo' : ScanMemo}
    (hmemo : memo.Holds texts) (hmemo' : memo'.Holds texts)
    (hscans : ∀ text ∈ p.scans (.run candidates), text ∈ texts) {r r' : Report}
    (hok : (p.run memo candidates).outcome = .ok r)
    (hok' : (q.run memo' candidates').outcome = .ok r') : r.warnings.Perm r'.warnings := by
  have haudited := h.audited_perm hc
  have hscans' : ∀ text ∈ q.scans (.run candidates'), text ∈ texts := fun text htext =>
    hscans text ((haudited.map Draft.pattern).mem_iff.2 htext)
  have hwarning : p.warning? = q.warning? := by
    funext d
    rw [warning?, warning?, h.options]
  rw [(run_memo hmemo hinj hscans).2 r hok, (run_memo hmemo' hinj hscans').2 r' hok', hwarning]
  exact haudited.filterMap _

/-! ## Histories -/

omit [TextHash] in
/-- Generators that are added to a new pipeline in two orders make pipelines alike. -/
lemma exists_alike_of_perm (o : Options) (config : Config) {gs gs' : List Generator}
    (hperm : gs.Perm gs') (hnames : (gs.map Generator.name).Nodup) :
    ∃ p q, gs.foldlM add (empty o config) = .ok p ∧ gs'.foldlM add (empty o config) = .ok q ∧
      p.Alike q := by
  have hnames' : (gs'.map Generator.name).Nodup := (hperm.map _).nodup_iff.1 hnames
  exact ⟨_, _, foldlM_add (p := empty o config) hnames, foldlM_add (p := empty o config) hnames',
    hperm, rfl, rfl, fun _ => rfl, rfl, rfl⟩

/-- Commands that are the same except for the order of candidates keep pipelines alike. -/
theorem Alike.perform (h : p.Alike q) {command command' : Command}
    (hc : command.Reorders command') (memo memo' : ScanMemo) :
    (p.perform memo command).2.1.Alike (q.perform memo' command').2.1 := by
  cases hc with
  | run hperm => exact (h.run_matches hperm memo memo').pipeline
  | same =>
    cases command with
    | add g =>
      have hnames : g.name ∈ p.names ↔ g.name ∈ q.names := (h.generators.map _).mem_iff
      by_cases hname : g.name ∈ p.names
      · simp only [Pipeline.perform, Pipeline.add, dif_pos hname, dif_pos (hnames.1 hname)]
        exact h
      · simp only [Pipeline.perform, Pipeline.add, dif_neg hname, dif_neg (mt hnames.2 hname)]
        exact { h with generators := h.generators.append_right [g] }
    | configure o => exact { h with options := rfl }
    | forget => exact { h with kept := fun _ => rfl, cachedUnder := rfl }
    | run candidates => exact (h.run_matches (.refl _) memo memo').pipeline

/-- Pipelines that are alike stay so in histories that are the same except for the order of
candidates. -/
theorem Alike.after (h : p.Alike q) {history history' : List Step}
    (hsteps : List.Forall₂ (fun s s' => s.command.Reorders s'.command) history history') :
    (p.after history).Alike (q.after history') := by
  induction hsteps generalizing p q with
  | nil => exact h
  | cons hstep _ ih => exact ih (h.perform hstep _ _)

/-- **The order of candidates and generators does not matter.**  Two pipelines that are alike, or
one and the same, run passes over the same candidates in two orders: both end in a conflict, or both
give the same outputs and numbers, and the pipelines are alike afterwards.  If they come to these
passes in histories of workspaces, and no two patterns that are scanned have the same hash, the
warnings are the same in another order.  Pipelines that were given the same generators in two orders
are alike, and stay so whatever is done with both of them. -/
theorem order_irrelevant :
    (∀ (p q : Pipeline) (memo memo' : ScanMemo) (candidates candidates' : List Candidate),
      p = q ∨ p.Alike q → candidates.Perm candidates' →
        (p.run memo candidates).Matches (q.run memo' candidates') ∧
          ∀ texts : Set String, Set.InjOn TextHash.hash texts →
            Workspace.Reaches texts p memo → Workspace.Reaches texts q memo' →
            (∀ text ∈ p.scans (.run candidates), text ∈ texts) →
            ∀ r r', (p.run memo candidates).outcome = .ok r →
              (q.run memo' candidates').outcome = .ok r' → r.warnings.Perm r'.warnings) ∧
    ∀ (o : Options) (config : Config) (gs gs' : List Generator), gs.Perm gs' →
      (gs.map Generator.name).Nodup →
        ∃ p q, gs.foldlM add (empty o config) = .ok p ∧ gs'.foldlM add (empty o config) = .ok q ∧
          ∀ history history' : List Step,
            List.Forall₂ (fun s s' => s.command.Reorders s'.command) history history' →
              (p.after history).Alike (q.after history') := by
  constructor
  · intro p q memo memo' candidates candidates' hpq hc
    have h : p.Alike q := by
      rcases hpq with rfl | h
      · exact .refl p
      · exact h
    refine ⟨h.run_matches hc memo memo', fun texts hinj hp hq hscans r r' hok hok' => ?_⟩
    exact h.warnings_perm hc hinj (hp.holds hinj) (hq.holds hinj) hscans hok hok'
  · intro o config gs gs' hperm hnames
    obtain ⟨p, q, hp, hq, h⟩ := exists_alike_of_perm o config hperm hnames
    exact ⟨p, q, hp, hq, fun _ _ => h.after⟩

end Main

/-- Two pipelines have the same generators in two orders, one of them with an open hole; after a
pass over one candidate they run passes over two candidates in two orders. -/
theorem order_irrelevant_note :
    let c : Candidate := { name := "Lookup", markers := [.holder (.result "User" "String")] }
    let d : Candidate := { name := "Maybe", markers := [.holder (.option "u8")] }
    let texts : Set String := {text | text ∈ [Patterns.resultHolder, Patterns.optionHolder,
      "\x7bName\x7d: \x7bText\x7d"]}
    ∃ p q memo memo', Workspace.Reaches texts p memo ∧ Workspace.Reaches texts q memo' ∧
      p.Alike q ∧ Set.InjOn TextHash.hash texts ∧ (∀ text ∈ p.scans (.run [c, d]), text ∈ texts) ∧
      ∃ r r', (p.run memo [c, d]).outcome = .ok r ∧ (q.run memo' [d, c]).outcome = .ok r' ∧
        (p.run memo [c, d]).Matches (q.run memo' [d, c]) ∧ r.warnings.Perm r'.warnings := by
  intro c d texts
  let note : Generator := Recipe.generator
    { name := "note", kind := .optionHolder, pattern := "\x7bName\x7d: \x7bText\x7d"
      suffix := "note" }
  obtain ⟨hpasses, hadded⟩ := order_irrelevant
  have hnames : ([Holder.generator, note].map Generator.name).Nodup := by decide
  have hnames' : ([note, Holder.generator].map Generator.name).Nodup := by decide
  obtain ⟨p₀, q₀, hp, hq, hafter⟩ :=
    hadded {} {} [Holder.generator, note] [note, Holder.generator] (.swap _ _ _) hnames
  obtain rfl := Except.ok.inj ((foldlM_add (p := empty {} {}) hnames).symm.trans hp)
  obtain rfl := Except.ok.inj ((foldlM_add (p := empty {} {}) hnames').symm.trans hq)
  -- each of the two is the only pipeline of a workspace
  let p : Pipeline :=
    { empty {} {} with generators := [Holder.generator, note], distinct := by decide }
  let q : Pipeline :=
    { empty {} {} with generators := [note, Holder.generator], distinct := by decide }
  have halike : (p.run .empty [c]).pipeline.Alike (q.run .empty [c]).pipeline :=
    hafter [⟨.run [c], .empty⟩] [⟨.run [c], .empty⟩] (.cons (.same _) .nil)
  have hreaches : Workspace.Reaches texts (p.run .empty [c]).pipeline (p.run .empty [c]).memo :=
    ⟨[p], false, [⟨0, .run [c]⟩], 0, rfl, by decide +kernel⟩
  have hreaches' : Workspace.Reaches texts (q.run .empty [c]).pipeline (q.run .empty [c]).memo :=
    ⟨[q], false, [⟨0, .run [c]⟩], 0, rfl, by decide +kernel⟩
  have hhash : ∀ s ∈ [Patterns.resultHolder, Patterns.optionHolder, "\x7bName\x7d: \x7bText\x7d"],
      ∀ t ∈ [Patterns.resultHolder, Patterns.optionHolder, "\x7bName\x7d: \x7bText\x7d"],
        TextHash.hash s = TextHash.hash t → s = t := by decide +kernel
  have hinj : Set.InjOn TextHash.hash texts := fun s hs t ht h => hhash s hs t ht h
  have hscans : ∀ text ∈ (p.run .empty [c]).pipeline.scans (.run [c, d]), text ∈ texts := by
    decide +kernel
  have hrepeated : ((p.run .empty [c]).pipeline.survey [c, d]).repeated = none := by decide +kernel
  have hrepeated' : ((q.run .empty [c]).pipeline.survey [d, c]).repeated = none := by
    decide +kernel
  obtain ⟨⟨warnings, stats, hok⟩, -⟩ := run_of_distinct hrepeated (p.run .empty [c]).memo
  obtain ⟨⟨warnings', stats', hok'⟩, -⟩ := run_of_distinct hrepeated' (q.run .empty [c]).memo
  obtain ⟨hmatches, hwarnings⟩ := hpasses _ _ _ _ [c, d] [d, c] (.inr halike) (.swap _ _ _)
  exact ⟨_, _, _, _, hreaches, hreaches', halike, hinj, hscans, _, _, hok, hok', hmatches,
    hwarnings texts hinj hreaches hreaches' hscans _ _ hok hok'⟩

end Pipeline

end Stencil
