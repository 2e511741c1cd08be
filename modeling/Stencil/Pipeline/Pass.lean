import Stencil.Pattern.ScanMemo
import Stencil.Pipeline.Basic
import Stencil.Pipeline.Event

/-!
# Passes

In a pass every generator looks at every candidate: the first candidate comes first, and for each
candidate the generators come in their order.  The descriptors found are drafts of artifacts.
Two drafts with one key are a conflict, and the pass ends there without having changed anything.

Otherwise each draft becomes an artifact.  If the pipeline keeps an artifact of the same key that
was made from an equal descriptor under the same options, it is kept; else the artifact is made
anew.  Afterwards the pipeline keeps the artifacts of this pass and no others.
-/

namespace Stencil

/-- What a generator found out about a candidate. -/
structure Finding where
  generator : Generator
  extraction : Extraction

/-- An artifact that a generator described. -/
structure Draft where
  generator : Generator
  descriptor : Descriptor

namespace Draft

/-- What the artifact will be kept under. -/
def key (d : Draft) : ArtifactKey := ⟨d.generator.name, d.descriptor.identity⟩

/-- The pattern that the artifact is made from. -/
def pattern (d : Draft) : String := d.generator.pattern d.descriptor

/-- Makes the artifact. -/
def render (d : Draft) (f : Filler) : Artifact where
  descriptor := d.descriptor
  fileName := d.generator.fileName d.descriptor
  text := f.fill d.pattern d.descriptor.bindings
  fresh := true

end Draft

/-- The findings of a pass, sorted out up to the first conflict. -/
structure Survey where
  /-- The names of generators with the reasons why they made nothing of a candidate. -/
  skips : List (String × Skip)
  drafts : List Draft
  /-- The key of the first draft whose key occurred before. -/
  repeated : Option ArtifactKey

namespace Survey

/-- Sorts findings out, behind drafts with the keys seen. -/
def ofFindings (seen : List ArtifactKey) : List Finding → Survey
  | [] => ⟨[], [], none⟩
  | finding :: rest =>
    match finding.extraction with
    | .error reason =>
      let s := ofFindings seen rest
      { s with skips := (finding.generator.name, reason) :: s.skips }
    | .ok descriptor =>
      let draft : Draft := ⟨finding.generator, descriptor⟩
      if draft.key ∈ seen then ⟨[], [], some draft.key⟩
      else
        let s := ofFindings (draft.key :: seen) rest
        { s with drafts := draft :: s.drafts }

/-- The events of the skipped candidates. -/
def events (s : Survey) : List Event := s.skips.map fun skip => .skipped skip.1 skip.2

end Survey

/-- What becomes of a draft. -/
inductive Verdict where
  /-- A kept artifact still holds. -/
  | keep (artifact : Artifact)
  /-- The artifact is made; `changed` says whether it replaces a kept one. -/
  | render (changed : Bool)

/-- What running a pass gives. -/
structure Pass where
  events : List Event
  outcome : Except Conflict Report
  /-- The pipeline afterwards. -/
  pipeline : Pipeline
  /-- The remembered scans afterwards. -/
  memo : ScanMemo

namespace Pipeline

/-! ## Drafts -/

/-- What every generator finds out about every candidate. -/
def findings (p : Pipeline) (candidates : List Candidate) : List Finding :=
  candidates.flatMap fun c => p.generators.map fun g => ⟨g, g.extract c p.options⟩

/-- The findings about some candidates, sorted out. -/
def survey (p : Pipeline) (candidates : List Candidate) : Survey :=
  Survey.ofFindings [] (p.findings candidates)

variable [TextHash]

/-! ## From drafts to artifacts -/

/-- Whether the kept artifacts were made under the present options. -/
def isCurrent (p : Pipeline) : Bool := p.cachedUnder == some p.options.fingerprint

/-- What becomes of a draft. -/
def verdict (p : Pipeline) (d : Draft) : Verdict :=
  match p.kept? d.key with
  | some a => if p.isCurrent && a.descriptor == d.descriptor then .keep a else .render true
  | none => .render false

/-- Whether a draft is made anew. -/
def isRendered (p : Pipeline) (d : Draft) : Bool :=
  match p.verdict d with
  | .keep _ => false
  | .render _ => true

/-- The artifact that a draft becomes. -/
def artifact (p : Pipeline) (d : Draft) : Artifact :=
  match p.verdict d with
  | .keep a => { a with fresh := false }
  | .render _ => d.render p.options.filler

/-- The event that tells what becomes of a draft. -/
def verdictEvent (p : Pipeline) (d : Draft) : Event :=
  match p.verdict d with
  | .keep _ => .reused d.key
  | .render changed => .rendering d.key changed

/-! ## Open placeholders -/

/-- The warnings about drafts whose patterns have open placeholders, and the remembered scans
afterwards. -/
def audit (p : Pipeline) (memo : ScanMemo) : List Draft → List Warning × ScanMemo
  | [] => ([], memo)
  | d :: rest =>
    let (coverage, memo) := memo.coverage p.options.filler d.pattern d.descriptor.bindings
    let (warnings, memo) := p.audit memo rest
    (if coverage.isComplete then warnings else ⟨d.key, coverage.missing⟩ :: warnings, memo)

/-- The warnings of a pass that makes some drafts anew; without validation there are none and
nothing is scanned. -/
def warnings (p : Pipeline) (memo : ScanMemo) (rendered : List Draft) :
    List Warning × ScanMemo :=
  if p.config.validateCoverage then p.audit memo rendered else ([], memo)

/-! ## The pass -/

/-- The event at the start of a pass whose options differ from those of the kept artifacts. -/
def openingEvents (p : Pipeline) : List Event :=
  if !p.isCurrent && !p.cache.isEmpty then [.optionsChanged p.cache.size] else []

/-- The keys of kept artifacts that no draft has.  They are sorted so that the events of a pass are
determined; another order would do as well. -/
def removedKeys (p : Pipeline) (drafts : List Draft) : List ArtifactKey :=
  (p.cache.keys.filter fun key => !drafts.any fun d => d.key == key).mergeSort ArtifactKey.le

/-- The pipeline after a pass with some drafts. -/
def afterPass (p : Pipeline) (drafts : List Draft) : Pipeline :=
  { p with
    cache := Table.empty.putAll (drafts.map fun d => (d.key, p.artifact d))
    cachedUnder := some p.options.fingerprint
    passes := p.passes + 1 }

/-- Runs a pass over some candidates. -/
def run (p : Pipeline) (memo : ScanMemo) (candidates : List Candidate) : Pass :=
  let survey := p.survey candidates
  let opening := p.openingEvents ++ survey.events
  match survey.repeated with
  | some key => ⟨opening, .error (.repeatedArtifact key), p, memo⟩
  | none =>
    let rendered := survey.drafts.filter p.isRendered
    let kept := survey.drafts.filter fun d => !p.isRendered d
    let (warnings, memo) := p.warnings memo rendered
    let removed := p.removedKeys survey.drafts
    let next := p.afterPass survey.drafts
    let stats : Stats :=
      { candidates := candidates.length
        skipped := survey.skips.length
        generated := rendered.length
        reused := kept.length
        removed := removed.length }
    { events := opening ++ survey.drafts.map p.verdictEvent ++ warnings.map Event.uncovered ++
        removed.map Event.removed ++ [.finished next.passes stats]
      outcome := .ok ⟨next.outputs, warnings, stats⟩
      pipeline := next
      memo := memo }

end Pipeline

end Stencil
