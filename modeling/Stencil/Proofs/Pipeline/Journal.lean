import Stencil.Proofs.Pipeline.History
import Stencil.Proofs.Pipeline.Warnings

/-!
# The history of one pipeline in a workspace

In a history of a workspace, each pipeline takes the steps that the requests to it ask for, and
each step finds the memo as the steps of other pipelines have left it.  So the history of the
workspace contains a history of the pipeline (`Workspace.Follows`), from which the replies to its
requests and the pipeline afterwards can be computed.  Nothing else of the workspace matters.

The main results are

* `Workspace.Reaches.holds`: what is remembered when a pipeline comes to run a pass;
* `Workspace.Hosts.handle_own`, `Workspace.Hosts.handle_other`: what a request does to a pipeline;
* `Workspace.Hosts.exists_follows`: the history of a pipeline in a history of its workspace.
-/

namespace Stencil

section Main

variable [TextHash]

namespace Pipeline

/-- The replies to the commands of a history. -/
def replies (p : Pipeline) : List Step → List Reply
  | [] => []
  | s :: rest =>
    (p.perform s.memo s.command).1 :: (p.perform s.memo s.command).2.1.replies rest

/-- The patterns that are scanned in a history. -/
def scanned (p : Pipeline) : List Step → List String
  | [] => []
  | s :: rest => p.scans s.command ++ (p.perform s.memo s.command).2.1.scanned rest

end Pipeline

namespace Workspace

/-- The workspace after a history. -/
def after (w : Workspace) (history : List Request) : Workspace :=
  history.foldl (fun w r => (w.handle r).after) w

/-- The commands of a history that are for one pipeline. -/
def commandsTo (index : Nat) (history : List Request) : List Command :=
  (history.filter fun r => r.index = index).map Request.command

/-- The replies in a journal to the requests to one pipeline. -/
def repliesTo (index : Nat) (journal : List Entry) : List (Option Reply) :=
  (journal.filter fun e => e.request.index = index).map Entry.reply

variable {w : Workspace} {index : Nat} {p : Pipeline} {texts : Set String}

lemma Remembers.after (h : w.Remembers texts) (hinj : Set.InjOn TextHash.hash texts)
    {history : List Request} (hscanned : ∀ text ∈ w.scanned history, text ∈ texts) :
    (w.after history).Remembers texts := by
  induction history generalizing w with
  | nil => exact h
  | cons r rest ih =>
    rw [Workspace.scanned] at hscanned
    refine ih (h.handle hinj fun text htext => ?_) fun text htext => ?_
    · exact hscanned text (List.mem_append_left _ htext)
    · exact hscanned text (List.mem_append_right _ htext)

/-- At some point in a history of a workspace, in which nothing but some texts is scanned, a
pipeline finds a memo. -/
def Reaches (texts : Set String) (p : Pipeline) (memo : ScanMemo) : Prop :=
  ∃ pipelines shared history index,
    ((ofPipelines pipelines shared).after history).get? index = some (p, memo) ∧
      ∀ text ∈ (ofPipelines pipelines shared).scanned history, text ∈ texts

/-- All that a pipeline finds remembered are scans of these texts. -/
lemma Reaches.holds {memo : ScanMemo} (h : Reaches texts p memo)
    (hinj : Set.InjOn TextHash.hash texts) : memo.Holds texts := by
  obtain ⟨pipelines, shared, history, index, hget, hscanned⟩ := h
  have hremembers := (remembers_ofPipelines texts pipelines shared).after hinj hscanned
  simp only [get?, Option.bind_eq_bind, Option.bind_eq_some_iff, Option.pure_def,
    Option.some.injEq, Prod.mk.injEq] at hget
  obtain ⟨_, -, _, hmemo, -, rfl⟩ := hget
  exact hremembers _ (List.mem_of_getElem? hmemo)

/-! ## Pipelines in their places -/

/-- A pipeline stands in its place, and for each place there is a memo. -/
structure Hosts (w : Workspace) (index : Nat) (p : Pipeline) : Prop where
  pipeline : w.pipelines[index]? = some p
  memos : w.memos.length = w.pipelines.length

omit [TextHash] in
lemma hosts_ofPipelines {pipelines : List Pipeline} (h : pipelines[index]? = some p)
    (shared : Bool) : (ofPipelines pipelines shared).Hosts index p where
  pipeline := h
  memos := List.length_map _

omit [TextHash] in
lemma Hosts.exists_memo (h : w.Hosts index p) :
    ∃ memo, w.memos[w.memoIndex index]? = some memo := by
  have hindex := (List.getElem?_eq_some_iff.1 h.pipeline).1
  have hmemo : w.memoIndex index < w.memos.length := by
    rw [memoIndex, h.memos]
    split
    · exact Nat.zero_lt_of_lt hindex
    · exact hindex
  exact ⟨_, List.getElem?_eq_getElem hmemo⟩

/-- A request to a pipeline is carried out with the memo that is found. -/
lemma Hosts.handle_own (h : w.Hosts index p) (command : Command) :
    ∃ memo, w.memos[w.memoIndex index]? = some memo ∧
      (w.handle ⟨index, command⟩).reply = some (p.perform memo command).1 ∧
      (w.handle ⟨index, command⟩).after.Hosts index (p.perform memo command).2.1 ∧
      (w.handle ⟨index, command⟩).after.memos =
        w.memos.set (w.memoIndex index) (p.perform memo command).2.2 := by
  obtain ⟨memo, hmemo⟩ := h.exists_memo
  have hindex := (List.getElem?_eq_some_iff.1 h.pipeline).1
  have hhandle : w.handle ⟨index, command⟩ =
      ⟨⟨index, command⟩, some (p.perform memo command).1,
        { w with
          pipelines := w.pipelines.set index (p.perform memo command).2.1
          memos := w.memos.set (w.memoIndex index) (p.perform memo command).2.2 }⟩ := by
    simp [handle, perform?, get?, h.pipeline, hmemo]
  rw [hhandle]
  refine ⟨memo, hmemo, rfl, ⟨List.getElem?_set_self hindex, ?_⟩, rfl⟩
  simp only [List.length_set]
  exact h.memos

/-- A request to another pipeline leaves a pipeline in its place. -/
lemma Hosts.handle_other (h : w.Hosts index p) {r : Request} (hne : r.index ≠ index) :
    (w.handle r).after.Hosts index p := by
  cases hperform : w.perform? r.index r.command with
  | none =>
    rw [handle, hperform]
    exact h
  | some result =>
    obtain ⟨reply, next⟩ := result
    obtain ⟨q, memo, -, -, -, rfl⟩ := perform?_eq_some hperform
    rw [handle, hperform]
    refine ⟨(List.getElem?_set_ne hne).trans h.pipeline, ?_⟩
    simp only [List.length_set]
    exact h.memos

/-! ## The history of a pipeline -/

/-- In a history of a workspace a pipeline takes some steps: they are what the requests to it ask
for, they give the replies to these and the pipeline afterwards, and they scan nothing that is not
scanned in the history. -/
structure Follows (w : Workspace) (index : Nat) (p : Pipeline) (history : List Request)
    (steps : List Step) : Prop where
  commands : steps.map Step.command = commandsTo index history
  replies : repliesTo index (w.journal history) = (p.replies steps).map some
  after : (w.after history).Hosts index (p.after steps)
  scanned : ∀ text ∈ p.scanned steps, text ∈ w.scanned history
  scanned_of_own : (∀ r ∈ history, r.index = index) → w.scanned history = p.scanned steps
  holds : ∀ texts, Set.InjOn TextHash.hash texts → w.Remembers texts →
    (∀ text ∈ w.scanned history, text ∈ texts) → ∀ s ∈ steps, s.memo.Holds texts

lemma Follows.nil (h : w.Hosts index p) : w.Follows index p [] [] where
  commands := rfl
  replies := rfl
  after := h
  scanned _ htext := htext
  scanned_of_own _ := rfl
  holds _ _ _ _ _ hs := by cases hs

/-- A request to the pipeline is a step of it. -/
lemma Follows.cons_own (h : w.Hosts index p) {command : Command} {memo : ScanMemo}
    (hmemo : w.memos[w.memoIndex index]? = some memo)
    (hreply : (w.handle ⟨index, command⟩).reply = some (p.perform memo command).1)
    {rest : List Request} {steps : List Step}
    (hrest : (w.handle ⟨index, command⟩).after.Follows index (p.perform memo command).2.1 rest
      steps) :
    w.Follows index p (⟨index, command⟩ :: rest) (⟨command, memo⟩ :: steps) := by
  have hscans : w.scans ⟨index, command⟩ = p.scans command := by rw [scans, h.pipeline]
  have hscanned : w.scanned (⟨index, command⟩ :: rest) =
      p.scans command ++ (w.handle ⟨index, command⟩).after.scanned rest := by
    rw [Workspace.scanned, hscans]
  refine ⟨?_, ?_, hrest.after, ?_, ?_, ?_⟩
  · simp [commandsTo, hrest.commands]
  · have hown : (w.handle ⟨index, command⟩).request.index = index := by rw [request_handle]
    have htail := hrest.replies
    simp only [repliesTo] at htail
    simp [repliesTo, journal, hown, hreply, htail, Pipeline.replies]
  · intro text htext
    rw [hscanned]
    rcases List.mem_append.1 htext with htext | htext
    · exact List.mem_append_left _ htext
    · exact List.mem_append_right _ (hrest.scanned text htext)
  · intro hown
    rw [hscanned, hrest.scanned_of_own fun r hr => hown r (List.mem_cons_of_mem _ hr)]
    rfl
  · intro texts hinj hremembers htexts s hs
    rw [hscanned] at htexts
    rcases List.mem_cons.1 hs with rfl | hs
    · exact hremembers memo (List.mem_of_getElem? hmemo)
    · refine hrest.holds texts hinj (hremembers.handle hinj fun text htext => ?_)
        (fun text htext => htexts text (List.mem_append_right _ htext)) s hs
      exact htexts text (List.mem_append_left _ (hscans ▸ htext))

/-- A request to another pipeline is none. -/
lemma Follows.cons_other {r : Request} (hne : r.index ≠ index) {rest : List Request}
    {steps : List Step} (hrest : (w.handle r).after.Follows index p rest steps) :
    w.Follows index p (r :: rest) steps := by
  refine ⟨?_, ?_, hrest.after, ?_, ?_, ?_⟩
  · simp [commandsTo, hne, hrest.commands]
  · have hother : (w.handle r).request.index ≠ index := by rwa [request_handle]
    have htail := hrest.replies
    simp only [repliesTo] at htail
    simp [repliesTo, journal, hother, htail]
  · intro text htext
    exact List.mem_append_right _ (hrest.scanned text htext)
  · intro hown
    exact absurd (hown r List.mem_cons_self) hne
  · intro texts hinj hremembers htexts
    rw [Workspace.scanned] at htexts
    refine hrest.holds texts hinj (hremembers.handle hinj fun text htext => ?_)
      fun text htext => htexts text (List.mem_append_right _ htext)
    exact htexts text (List.mem_append_left _ htext)

/-- In every history of a workspace there is a history of each of its pipelines. -/
theorem Hosts.exists_follows (h : w.Hosts index p) (history : List Request) :
    ∃ steps, w.Follows index p history steps := by
  induction history generalizing w p with
  | nil => exact ⟨[], .nil h⟩
  | cons r rest ih =>
    by_cases hindex : r.index = index
    · obtain ⟨_, command⟩ := r
      subst hindex
      obtain ⟨memo, hmemo, hreply, hnext, -⟩ := h.handle_own command
      obtain ⟨steps, hsteps⟩ := ih hnext
      exact ⟨_, .cons_own h hmemo hreply hsteps⟩
    · obtain ⟨steps, hsteps⟩ := ih (h.handle_other hindex)
      exact ⟨steps, .cons_other hindex hsteps⟩

end Workspace

end Main

end Stencil
