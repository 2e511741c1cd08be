import Stencil.Proofs.Pattern.ScanMemo
import Stencil.Proofs.Pipeline.Failure
import Stencil.Proofs.Pipeline.Pass

/-!
# The warnings of a history

A pass checks the drafts that it makes anew, and asks a memo for the placeholders of their
patterns.  The memo may have been filled by other passes and, if it is shared, by other pipelines.
In a history in which no two patterns that are scanned have the same hash, this makes no difference:
the warnings are those that the patterns themselves give rise to.

The main results are

* `Pipeline.run_memo`: the warnings of a pass, and what it remembers;
* `Workspace.warnings_of_mem_journal`: the warnings of all passes in a history.
-/

namespace Stencil

namespace Pipeline

/-- The warning about a draft, if its pattern has placeholders that nothing is bound to. -/
def warning? (p : Pipeline) (d : Draft) : Option Warning :=
  let coverage := Coverage.between (p.options.filler.placeholders d.pattern) d.descriptor.bindings
  if coverage.isComplete then none else some ⟨d.key, coverage.missing⟩

variable [TextHash]

/-- The drafts that a pass makes anew and checks. -/
def audited (p : Pipeline) (candidates : List Candidate) : List Draft :=
  if p.config.validateCoverage = true ∧ (p.survey candidates).repeated = none then
    (p.survey candidates).drafts.filter p.isRendered
  else []

/-- The patterns that carrying out a command scans. -/
def scans (p : Pipeline) : Command → List String
  | .run candidates => (p.audited candidates).map Draft.pattern
  | _ => []

variable {p : Pipeline} {memo : ScanMemo} {texts : Set String} {candidates : List Candidate}

lemma audit_eq (h : memo.Holds texts) (hinj : Set.InjOn TextHash.hash texts) {drafts : List Draft}
    (hdrafts : ∀ d ∈ drafts, d.pattern ∈ texts) :
    (p.audit memo drafts).1 = drafts.filterMap p.warning? ∧
      (p.audit memo drafts).2.Holds texts := by
  induction drafts generalizing memo with
  | nil => exact ⟨rfl, h⟩
  | cons d drafts ih =>
    obtain ⟨hcoverage, hnext⟩ :=
      h.coverage hinj (hdrafts d List.mem_cons_self) p.options.filler d.descriptor.bindings
    obtain ⟨hrest, hafter⟩ := ih hnext fun d' hd' => hdrafts d' (List.mem_cons_of_mem _ hd')
    refine ⟨?_, hafter⟩
    simp only [audit, hcoverage, hrest, List.filterMap_cons, warning?]
    split <;> rfl

/-- What a pass remembers are scans, and its warnings are those about the drafts that it checks. -/
lemma run_memo (h : memo.Holds texts) (hinj : Set.InjOn TextHash.hash texts)
    (hscans : ∀ text ∈ p.scans (.run candidates), text ∈ texts) :
    (p.run memo candidates).memo.Holds texts ∧
      ∀ report, (p.run memo candidates).outcome = .ok report →
        report.warnings = (p.audited candidates).filterMap p.warning? := by
  cases hrepeated : (p.survey candidates).repeated with
  | some key => simp [run, hrepeated, h]
  | none =>
    by_cases hvalidate : p.config.validateCoverage = true
    · have haudited : p.audited candidates = (p.survey candidates).drafts.filter p.isRendered :=
        if_pos ⟨hvalidate, hrepeated⟩
      have hdrafts : ∀ d ∈ (p.survey candidates).drafts.filter p.isRendered, d.pattern ∈ texts := by
        intro d hd
        refine hscans _ (List.mem_map_of_mem ?_)
        rwa [haudited]
      obtain ⟨hwarnings, hafter⟩ := audit_eq h hinj hdrafts
      simp only [run, hrepeated, warnings, if_pos hvalidate, haudited, Except.ok.injEq]
      refine ⟨hafter, ?_⟩
      rintro report rfl
      exact hwarnings
    · have haudited : p.audited candidates = [] := if_neg fun hboth => hvalidate hboth.1
      simp only [run, hrepeated, warnings, if_neg hvalidate, haudited, Except.ok.injEq]
      refine ⟨h, ?_⟩
      rintro report rfl
      rfl

/-- Carrying out a command keeps a memo of scans one of scans. -/
lemma perform_memo (h : memo.Holds texts) (hinj : Set.InjOn TextHash.hash texts)
    {command : Command} (hscans : ∀ text ∈ p.scans command, text ∈ texts) :
    (p.perform memo command).2.2.Holds texts := by
  cases command with
  | add g =>
    cases hadd : p.add g <;> simp [perform, hadd, h]
  | configure o => exact h
  | forget => exact h
  | run candidates => exact (run_memo h hinj hscans).1

/-- The warnings of a pass in the answer to a command. -/
lemma warnings_of_perform (h : memo.Holds texts) (hinj : Set.InjOn TextHash.hash texts)
    {command : Command} (hscans : ∀ text ∈ p.scans command, text ∈ texts) {report : Report}
    (hreport : (p.perform memo command).1.answer = .ran (.ok report)) :
    ∃ candidates, command = .run candidates ∧
      report.warnings = (p.audited candidates).filterMap p.warning? := by
  cases command with
  | add g => cases hadd : p.add g <;> simp [perform, hadd] at hreport
  | configure o => cases hreport
  | forget => cases hreport
  | run candidates =>
    have hok : (p.run memo candidates).outcome = .ok report := Answer.ran.inj hreport
    exact ⟨candidates, rfl, (run_memo h hinj hscans).2 report hok⟩

end Pipeline

namespace Workspace

variable [TextHash]

/-- The patterns that carrying out a request scans. -/
def scans (w : Workspace) (r : Request) : List String :=
  match w.pipelines[r.index]? with
  | some p => p.scans r.command
  | none => []

/-- The patterns that are scanned in a history. -/
def scanned (w : Workspace) : List Request → List String
  | [] => []
  | r :: rest => w.scans r ++ (w.handle r).after.scanned rest

/-- All that is remembered are scans of some texts. -/
def Remembers (texts : Set String) (w : Workspace) : Prop := ∀ memo ∈ w.memos, memo.Holds texts

variable {w : Workspace} {texts : Set String}

lemma remembers_ofPipelines (texts : Set String) (pipelines : List Pipeline) (shared : Bool) :
    (ofPipelines pipelines shared).Remembers texts := by
  intro memo hmemo
  obtain ⟨p, -, rfl⟩ := List.mem_map.1 hmemo
  exact ScanMemo.holds_empty texts

lemma Remembers.handle (h : w.Remembers texts) (hinj : Set.InjOn TextHash.hash texts) {r : Request}
    (hscans : ∀ text ∈ w.scans r, text ∈ texts) : (w.handle r).after.Remembers texts := by
  cases hperform : w.perform? r.index r.command with
  | none =>
    rw [Workspace.handle, hperform]
    exact h
  | some result =>
    obtain ⟨reply, next⟩ := result
    obtain ⟨p, memo, hp, hmemo, -, rfl⟩ := perform?_eq_some hperform
    rw [Workspace.handle, hperform]
    rw [scans, hp] at hscans
    have hholds : memo.Holds texts := h memo (List.mem_of_getElem? hmemo)
    intro memo' hmemo'
    rcases List.mem_or_eq_of_mem_set hmemo' with hold | rfl
    · exact h memo' hold
    · exact Pipeline.perform_memo hholds hinj hscans

/-- A report in the journal of a history was made by a pipeline of the workspace, and it warns of
what the pipeline checked. -/
theorem warnings_of_mem_journal (h : w.Remembers texts) (hinj : Set.InjOn TextHash.hash texts)
    {history : List Request} (hscanned : ∀ text ∈ w.scanned history, text ∈ texts)
    {e : Entry} (he : e ∈ w.journal history) {reply : Reply} (hreply : e.reply = some reply)
    {report : Report} (hreport : reply.answer = .ran (.ok report)) :
    ∃ (p : Pipeline) (memo : ScanMemo) (candidates : List Candidate),
      e.after.pipelines[e.request.index]? = some (p.run memo candidates).pipeline ∧
        report.warnings = (p.audited candidates).filterMap p.warning? := by
  -- on the history: each request leaves a workspace that remembers scans of the texts only
  induction history generalizing w with
  | nil => cases he
  | cons r rest ih =>
    rw [scanned] at hscanned
    have hscans : ∀ text ∈ w.scans r, text ∈ texts := fun text htext =>
      hscanned text (List.mem_append_left _ htext)
    rcases List.mem_cons.1 he with rfl | he
    · cases hperform : w.perform? r.index r.command with
      | none => simp [Workspace.handle, hperform] at hreply
      | some result =>
        obtain ⟨reply', next⟩ := result
        obtain ⟨p, memo, hp, hmemo, hreply', rfl⟩ := perform?_eq_some hperform
        rw [Workspace.handle, hperform] at hreply ⊢
        obtain rfl : reply' = reply := Option.some.inj hreply
        rw [scans, hp] at hscans
        rw [hreply'] at hreport
        have hholds : memo.Holds texts := h memo (List.mem_of_getElem? hmemo)
        obtain ⟨candidates, hcommand, hwarnings⟩ :=
          Pipeline.warnings_of_perform hholds hinj hscans hreport
        refine ⟨p, memo, candidates, ?_, hwarnings⟩
        have hindex : r.index < w.pipelines.length := (List.getElem?_eq_some_iff.1 hp).1
        show (w.pipelines.set r.index (p.perform memo r.command).2.1)[r.index]? = _
        rw [List.getElem?_set_self hindex, hcommand]
        rfl
    · refine ih (h.handle hinj hscans) (fun text htext => ?_) he
      exact hscanned text (List.mem_append_right _ htext)

end Workspace

end Stencil
