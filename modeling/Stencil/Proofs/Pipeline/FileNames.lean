import Stencil.Proofs.Candidate.FileStem
import Stencil.Proofs.Generator.Extraction
import Stencil.Proofs.Pipeline.Incremental

/-!
# The file names of a pass

The files of the built-in generators differ in their suffixes, and the files of one generator
differ in their stems, unless one identity shadows another (`Shadows`).  In that case a pass goes
through, since the identities are different, and two of its outputs have the same file name.

The main results are

* `Pipeline.fileName_artifact`: a kept artifact has the file name that it would be given now;
* `Pipeline.fileName_eq_iff_shadows`: which outputs of a pass have the same file name;
* `Pipeline.exists_equal_fileNames`: a pass in which this happens.
-/

namespace Stencil

/-! ## Suffixes -/

namespace Generator

/-- The names of the built-in generators with the suffixes of their files. -/
def suffixes : List (String × String) :=
  [("holder", "holder"), ("value-object", "value"), ("sequences", "sequences")]

/-- A file name tells the stem and the suffix. -/
lemma fileOf_eq_iff {s t suffix suffix' : String} (hsuffix : '.' ∉ suffix.toList)
    (hsuffix' : '.' ∉ suffix'.toList) :
    fileOf s suffix = fileOf t suffix' ↔
      fileStem s.toList = fileStem t.toList ∧ suffix = suffix' := by
  constructor
  · intro h
    have hdot : ".".toList = ['.'] := rfl
    have hlists := congrArg String.toList h
    simp only [fileOf, String.toList_append, String.toList_ofList, hdot] at hlists
    have hfront := List.append_cancel_right hlists
    rw [List.append_assoc, List.append_assoc] at hfront
    obtain ⟨hstem, hend⟩ := Text.eq_of_stop_append hsuffix hsuffix' hfront
    exact ⟨hstem, String.toList_inj.1 hend⟩
  · rintro ⟨hstem, rfl⟩
    rw [fileOf, fileOf, hstem]

variable {g g' : Generator} {d d' : Descriptor}

lemma exists_suffix (hg : g ∈ defaults) :
    ∃ suffix, (g.name, suffix) ∈ suffixes ∧ ∀ d, g.fileName d = fileOf d.identity suffix := by
  rcases mem_defaults_iff.1 hg with rfl | rfl | rfl
  · exact ⟨"holder", by decide, fun _ => rfl⟩
  · exact ⟨"value", by decide, fun _ => rfl⟩
  · exact ⟨"sequences", by decide, fun _ => rfl⟩

/-- Two built-in generators give the same file name exactly if they have the same name and the
stems are the same. -/
lemma fileName_eq_fileName_iff (hg : g ∈ defaults) (hg' : g' ∈ defaults) :
    g.fileName d = g'.fileName d' ↔
      g.name = g'.name ∧ fileStem d.identity.toList = fileStem d'.identity.toList := by
  -- names and suffixes tell each other, and no suffix has a dot in it
  have htable : ∀ a ∈ suffixes, '.' ∉ a.2.toList ∧ ∀ b ∈ suffixes, (a.1 = b.1 ↔ a.2 = b.2) := by
    decide
  obtain ⟨suffix, hmem, hfile⟩ := exists_suffix hg
  obtain ⟨suffix', hmem', hfile'⟩ := exists_suffix hg'
  obtain ⟨hdot, hnames⟩ := htable _ hmem
  have hnames' : g.name = g'.name ↔ suffix = suffix' := hnames _ hmem'
  rw [hfile, hfile', fileOf_eq_iff hdot (htable _ hmem').1, hnames', and_comm]

end Generator

/-! ## Outputs -/

namespace Pipeline

section Main

variable [TextHash] {p : Pipeline}

/-- The artifact of a draft has the file name that the generator gives to the draft, be it kept or
made anew. -/
lemma Grounded.fileName_artifact {used : List Options} (hp : p.Grounded used) {d : Draft}
    (hd : d.generator ∈ p.generators) :
    (p.artifact d).fileName = d.generator.fileName d.descriptor := by
  rcases artifact_cases p d with ⟨a, hkept, hcurrent, heq, hart⟩ | hart
  · obtain ⟨o, -, -, hmade⟩ := hp.kept_of_isCurrent hd hkept hcurrent
    rw [hart]
    exact hmade.fileName.trans (d.generator.fileName_congr (Descriptor.beq_iff.1 heq))
  · rw [hart]
    rfl

/-- A pass without a conflict has an output for each artifact that a generator describes. -/
lemma Grounded.exists_output {used : List Options} (hp : p.Grounded used)
    {candidates : List Candidate} (hrepeated : (p.survey candidates).repeated = none)
    {g : Generator} (hg : g ∈ p.generators) {c : Candidate} (hc : c ∈ candidates) {d : Descriptor}
    (hextract : g.extract c p.options = .ok d) :
    ∃ o ∈ (p.afterPass (p.survey candidates).drafts).outputs,
      o.key = ⟨g.name, d.identity⟩ ∧ o.fileName = g.fileName d := by
  have hd : (⟨g, d⟩ : Draft) ∈ (p.survey candidates).drafts :=
    (mem_drafts_iff hrepeated).2 ⟨hg, c, hc, hextract⟩
  rw [outputs_afterPass]
  exact ⟨_, List.mem_map.2 ⟨⟨g, d⟩, List.mem_mergeSort.2 hd, rfl⟩, rfl, hp.fileName_artifact hg⟩

/-- **Which outputs have the same file name.**  In a pass of the built-in generators over candidates
in modules with sound names, two outputs have the same file name exactly if they come from one
generator and the identity of one of them shadows that of the other. -/
theorem fileName_eq_iff_shadows (hp : p.Created) (history : List Step)
    (hdefaults : ∀ g ∈ (p.after history).generators, g ∈ Generator.defaults)
    {candidates : List Candidate}
    (hmodules : ∀ c ∈ candidates, ∀ m ∈ c.modules, Generator.isTypeName m = true)
    (memo : ScanMemo) {report : Report}
    (hok : ((p.after history).run memo candidates).outcome = .ok report) :
    report.outputs.Pairwise fun a b =>
      (a.fileName = b.fileName ↔
        a.key.generator = b.key.generator ∧
          (Shadows a.key.identity b.key.identity ∨ Shadows b.key.identity a.key.identity)) := by
  obtain ⟨-, -, houtputs, -⟩ := run_eq_ok hok
  rw [houtputs, outputs_afterPass, List.pairwise_map]
  refine (pairwise_key_ne candidates).imp_of_mem fun {d e} hd he hkey => ?_
  -- each draft is what a built-in generator says about a candidate
  have hsource : ∀ {d : Draft}, d ∈ ((p.after history).survey candidates).drafts →
      d.generator ∈ Generator.defaults ∧
        (((p.after history).artifact d).fileName = d.generator.fileName d.descriptor) ∧
        ∃ c : Candidate, c.WellNamed ∧ d.descriptor.identity = c.identity := by
    intro d hd
    obtain ⟨hg, c, hc, hextract⟩ := extract_of_mem_drafts hd
    obtain ⟨hname, hidentity⟩ := Generator.identity_of_extract_eq_ok (hdefaults _ hg) hextract
    exact ⟨hdefaults _ hg, (grounded_after hp history).fileName_artifact hg, c,
      ⟨hname, hmodules c hc⟩, hidentity⟩
  obtain ⟨hg, hfile, c, hc, hidentity⟩ := hsource (List.mem_mergeSort.1 hd)
  obtain ⟨hg', hfile', c', hc', hidentity'⟩ := hsource (List.mem_mergeSort.1 he)
  show ((p.after history).artifact d).fileName = ((p.after history).artifact e).fileName ↔
    d.generator.name = e.generator.name ∧
      (Shadows d.descriptor.identity e.descriptor.identity ∨
        Shadows e.descriptor.identity d.descriptor.identity)
  rw [hfile, hfile', Generator.fileName_eq_fileName_iff hg hg', hidentity, hidentity']
  refine and_congr_right fun hname => Candidate.fileStem_eq_iff hc hc' fun h => hkey ?_
  rw [Draft.key, Draft.key, hname, hidentity, hidentity', h]

end Main

/-- Three types in one module, of which the first shadows the second one, and a fourth one that has
its name in another module. -/
theorem fileName_eq_iff_shadows_lookup :
    let marker : Marker := .holder (.option "u8")
    let candidates : List Candidate :=
      [{ name := "Lookup_2", modules := ["db"], markers := [marker] },
        { name := "Lookup", modules := ["db"], typeParams := ["T", "E"], markers := [marker] },
        { name := "Lookup", modules := ["db"], markers := [marker] },
        { name := "Lookup_2", modules := ["db", "cache"], markers := [marker] }]
    let p := withDefaults {} {}
    let history : List Step := [⟨.run candidates, .empty⟩, ⟨.configure { header := false }, .empty⟩]
    (∀ g ∈ (p.after history).generators, g ∈ Generator.defaults) ∧
      (∀ c ∈ candidates, ∀ m ∈ c.modules, Generator.isTypeName m = true) ∧
      ∃ report, ((p.after history).run .empty candidates).outcome = .ok report ∧
        report.outputs.Pairwise fun a b =>
          (a.fileName = b.fileName ↔
            a.key.generator = b.key.generator ∧
              (Shadows a.key.identity b.key.identity ∨
                Shadows b.key.identity a.key.identity)) := by
  intro marker candidates p history
  have hdefaults : ∀ g ∈ (p.after history).generators, g ∈ Generator.defaults := by
    have hadd : ∀ s ∈ history, ∀ g, s.command ≠ .add g := by simp [history]
    rw [generators_after hadd]
    exact fun g hg => hg
  have hmodules : ∀ c ∈ candidates, ∀ m ∈ c.modules, Generator.isTypeName m = true := by
    decide +kernel
  have hrepeated : ((p.after history).survey candidates).repeated = none := by decide +kernel
  obtain ⟨⟨warnings, stats, hok⟩, -⟩ := run_of_distinct hrepeated .empty
  exact ⟨hdefaults, hmodules, _, hok,
    fileName_eq_iff_shadows (.withDefaults {} {}) history hdefaults hmodules .empty hok⟩

/-- A pass over a type with two parameters and a type with its name, a low line and the number two
gives two different files of the same name. -/
theorem exists_equal_fileNames :
    let marker : Marker := .holder (.option "u8")
    let candidates : List Candidate :=
      [{ name := "Lookup_2", markers := [marker] },
        { name := "Lookup", typeParams := ["T", "E"], markers := [marker] }]
    (∀ c ∈ candidates, ∀ m ∈ c.modules, Generator.isTypeName m = true) ∧
      ∃ report, ((withDefaults {} {}).run .empty candidates).outcome = .ok report ∧
        ∃ a ∈ report.outputs, ∃ b ∈ report.outputs, a ≠ b ∧ a.fileName = b.fileName := by
  intro marker candidates
  have hrepeated : ((withDefaults {} {}).survey candidates).repeated = none := by decide +kernel
  have hnames : ∀ c ∈ candidates, Generator.isTypeName c.name = true := by decide +kernel
  have hmarkers : ∀ c ∈ candidates, c.markersIn .holder = [marker] := by decide
  obtain ⟨⟨warnings, stats, hok⟩, -⟩ := run_of_distinct hrepeated .empty
  have hgrounded := grounded_after (.withDefaults {} {}) []
  have houtput : ∀ c ∈ candidates, ∃ o ∈
      ((withDefaults {} {}).afterPass ((withDefaults {} {}).survey candidates).drafts).outputs,
        o.key = ⟨"holder", c.identity⟩ ∧ o.fileName = Generator.fileOf c.identity "holder" :=
    fun c hc => hgrounded.exists_output hrepeated List.mem_cons_self hc
      (Holder.extract_eq_ok_iff.2 ⟨hnames c hc, _, hmarkers c hc, trivial, rfl⟩)
  obtain ⟨a, ha, hkey, hfile⟩ := houtput _ List.mem_cons_self
  obtain ⟨b, hb, hkey', hfile'⟩ := houtput _ (List.mem_cons_of_mem _ List.mem_cons_self)
  refine ⟨by decide, _, hok, a, ha, b, hb, ?_, ?_⟩
  · rintro rfl
    rw [hkey] at hkey'
    exact absurd hkey' (by decide)
  · rw [hfile, hfile']
    decide

end Pipeline

end Stencil
