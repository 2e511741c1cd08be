import Stencil.Generator.Basic
import Stencil.Proofs.Candidate.Outline

/-!
# From identities to file names

A file name is made of an identity by writing a dot for two colons and a low line for the
backquote.  The dots lose nothing as long as no module has a dot or a colon in its name: the path
can be cut at them again.  The low line does lose something, since it may stand in a name as well.
So the stems of two files are the same exactly if one identity `Shadows` the other: a type without
parameters is named like a generic one, with a low line and the number of its parameters behind it.

The main results are

* `Candidate.fileStem_identity`: the stem of a file, as a path with dots;
* `Candidate.fileStem_eq_iff`: when two different identities have the same stem.
-/

namespace Stencil

/-! ## Joined texts -/

namespace Text

/-- What is written behind joined texts is written behind the last of them. -/
lemma intercalate_concat_append (sep : String) (texts : List String) (last mark : String) :
    sep.intercalate (texts ++ [last ++ mark]) = sep.intercalate (texts ++ [last]) ++ mark := by
  induction texts with
  | nil => simp
  | cons text texts ih =>
    have hne : ∀ t : String, texts ++ [t] ≠ [] := by simp
    simp only [List.cons_append, String.intercalate_cons_of_ne_nil (hne _), ih,
      String.append_assoc]

/-- Texts that do not hold the dot between them are told by the joined text. -/
lemma eq_of_intercalate_dot_eq {xs ys : List String} (hx : xs ≠ []) (hy : ys ≠ [])
    (hxs : ∀ x ∈ xs, '.' ∉ x.toList) (hys : ∀ y ∈ ys, '.' ∉ y.toList)
    (h : ".".intercalate xs = ".".intercalate ys) : xs = ys := by
  have hsplit : ∀ {zs : List String}, zs ≠ [] → (∀ z ∈ zs, '.' ∉ z.toList) →
      (".".intercalate zs).toList.splitOn '.' = zs.map String.toList := by
    intro zs hne hzs
    rw [String.toList_intercalate]
    exact List.splitOn_intercalate '.' (by simpa using hzs) (by simpa using hne)
  have hmap : xs.map String.toList = ys.map String.toList := by
    rw [← hsplit hx hxs, ← hsplit hy hys, h]
  exact List.map_injective_iff.2 (fun _ _ => String.toList_inj.1) hmap

lemma notMem_toString {c : Char} (hc : c.isDigit = false) (n : Nat) :
    c ∉ (toString n).toList := by
  intro h
  rw [isDigit_of_mem_toString h] at hc
  cases hc

end Text

/-! ## Stems -/

namespace Generator

lemma fileStem_cons {c : Char} (hc : c ≠ ':') (rest : List Char) :
    fileStem (c :: rest) = (if c = '\x60' then '_' else c) :: fileStem rest := by
  rw [fileStem]
  rintro _ rfl
  exact absurd rfl hc

/-- A character that is no colon is not read together with what stands before it. -/
lemma fileStem_append {c : Char} (hc : c ≠ ':') (cs rest : List Char) :
    fileStem (cs ++ c :: rest) = fileStem cs ++ fileStem (c :: rest) := by
  fun_induction fileStem cs with
  | case1 => rfl
  | case2 cs ih => rw [List.cons_append, List.cons_append, fileStem, ih, List.cons_append]
  | case3 d cs hd ih =>
    rw [List.cons_append, fileStem, ih, List.cons_append]
    intro tail hcolon htail
    cases cs with
    | nil => exact hc (List.cons.inj htail).1
    | cons e cs => exact hd cs hcolon (by rw [(List.cons.inj htail).1])

/-- The characters that a stem writes in another way stand in no name. -/
lemma ne_of_isNameChar {c : Char} (hc : isNameChar c = true) : c ≠ ':' ∧ c ≠ '.' ∧ c ≠ '\x60' := by
  have hcolon : isNameChar ':' = false := by decide +kernel
  have hdot : isNameChar '.' = false := by decide +kernel
  have hbackquote : isNameChar '\x60' = false := by decide +kernel
  refine ⟨?_, ?_, ?_⟩
  · rintro rfl
    simp [hcolon] at hc
  · rintro rfl
    simp [hdot] at hc
  · rintro rfl
    simp [hbackquote] at hc

lemma isNameChar_of_isTypeName {name : String} (h : isTypeName name = true) :
    ∀ c ∈ name.toList, isNameChar c = true := by
  unfold isTypeName at h
  split at h
  · cases h
  · next c rest hname =>
    rw [Bool.and_eq_true, List.all_eq_true] at h
    rw [hname]
    exact h.2

lemma dot_notMem_of_isTypeName {name : String} (h : isTypeName name = true) :
    '.' ∉ name.toList :=
  fun hmem => (ne_of_isNameChar (isNameChar_of_isTypeName h _ hmem)).2.1 rfl

/-- Characters other than colons and backquotes are written as they are. -/
lemma fileStem_append_of_ne {cs : List Char} (h : ∀ c ∈ cs, c ≠ ':' ∧ c ≠ '\x60')
    (rest : List Char) : fileStem (cs ++ rest) = cs ++ fileStem rest := by
  induction cs with
  | nil => rfl
  | cons c cs ih =>
    obtain ⟨hcolon, hbackquote⟩ := h c List.mem_cons_self
    have htail := ih fun d hd => h d (List.mem_cons_of_mem c hd)
    rw [List.cons_append, fileStem_cons hcolon, if_neg hbackquote, htail, List.cons_append]

lemma fileStem_name_append {name : String} (h : isTypeName name = true) (rest : List Char) :
    fileStem (name.toList ++ rest) = name.toList ++ fileStem rest := by
  refine fileStem_append_of_ne (fun c hc => ?_) rest
  obtain ⟨hcolon, -, hbackquote⟩ := ne_of_isNameChar (isNameChar_of_isTypeName h c hc)
  exact ⟨hcolon, hbackquote⟩

lemma fileStem_toString (n : Nat) : fileStem (toString n).toList = (toString n).toList := by
  have hcolon := Text.notMem_toString (c := ':') (by decide) n
  have hbackquote := Text.notMem_toString (c := '\x60') (by decide) n
  have hdigits : ∀ c ∈ (toString n).toList, c ≠ ':' ∧ c ≠ '\x60' :=
    fun c hc => ⟨fun h => hcolon (h ▸ hc), fun h => hbackquote (h ▸ hc)⟩
  simpa [fileStem] using fileStem_append_of_ne hdigits []

/-- Between names two colons become a dot. -/
lemma fileStem_path_append {names : List String} (hne : names ≠ [])
    (h : ∀ name ∈ names, isTypeName name = true) (rest : List Char) :
    fileStem (("::".intercalate names).toList ++ rest) =
      (".".intercalate names).toList ++ fileStem rest := by
  induction names with
  | nil => exact absurd rfl hne
  | cons name names ih =>
    have hname := h name List.mem_cons_self
    rcases eq_or_ne names [] with rfl | hnames
    · simpa using fileStem_name_append hname rest
    · have htail := ih hnames fun n hn => h n (List.mem_cons_of_mem name hn)
      have hcolons : "::".toList = [':', ':'] := rfl
      have hdot : ".".toList = ['.'] := rfl
      simp only [String.intercalate_cons_of_ne_nil hnames, String.toList_append, List.append_assoc,
        hcolons, hdot, List.cons_append, List.nil_append]
      rw [fileStem_name_append hname, fileStem, htail]

end Generator

/-! ## Identities with one stem -/

/-- An identity has a low line where another one has the backquote in front of the number of type
parameters; apart from that the two are equal. -/
def Shadows (s t : String) : Prop :=
  ∃ (path : String) (count : Nat),
    s = path ++ "_" ++ toString count ∧ t = path ++ "`" ++ toString count

/-- An identity has the stem of the identity that it shadows. -/
lemma Shadows.fileStem_eq {s t : String} (h : Shadows s t) :
    Generator.fileStem s.toList = Generator.fileStem t.toList := by
  obtain ⟨path, count, rfl, rfl⟩ := h
  simp only [String.toList_append, List.append_assoc]
  show Generator.fileStem (path.toList ++ '_' :: _) =
    Generator.fileStem (path.toList ++ '\x60' :: _)
  rw [Generator.fileStem_append (by decide), Generator.fileStem_append (by decide),
    Generator.fileStem_cons (by decide), Generator.fileStem_cons (by decide), if_pos rfl,
    if_neg (by decide)]

namespace Candidate

/-- The names in the path of a candidate are ones that a type may have. -/
structure WellNamed (c : Candidate) : Prop where
  name : Generator.isTypeName c.name = true
  modules : ∀ m ∈ c.modules, Generator.isTypeName m = true

/-- The last part of a stem: the name, with a low line and the number of type parameters behind it
if there are any. -/
def label (c : Candidate) : String :=
  if c.typeParams = [] then c.name else c.name ++ ("_" ++ toString c.typeParams.length)

variable {c f g : Candidate}

lemma fullName_eq_intercalate (c : Candidate) :
    c.fullName = "::".intercalate (c.modules ++ [c.name]) := by
  unfold fullName
  split
  · next h => simp [h]
  · next h => rw [String.intercalate_append_of_ne_nil h (by simp), String.intercalate_singleton]

lemma identity_of_generic (h : c.typeParams ≠ []) :
    c.identity = c.fullName ++ "`" ++ toString c.typeParams.length := by
  rw [identity, if_neg h]

lemma identity_of_plain (h : c.typeParams = []) : c.identity = c.fullName := by
  rw [identity, if_pos h]

/-- The stem of a file is the path with dots. -/
theorem fileStem_identity (hc : c.WellNamed) :
    Generator.fileStem c.identity.toList = (".".intercalate (c.modules ++ [c.label])).toList := by
  have hnames : ∀ name ∈ c.modules ++ [c.name], Generator.isTypeName name = true := by
    intro name hname
    rcases List.mem_append.1 hname with hm | hn
    · exact hc.modules name hm
    · rw [List.mem_singleton.1 hn]
      exact hc.name
  have hpath := Generator.fileStem_path_append (by simp) hnames
  by_cases hparams : c.typeParams = []
  · rw [identity_of_plain hparams, label, if_pos hparams, fullName_eq_intercalate]
    simpa [Generator.fileStem] using hpath []
  · have hbackquote : "`".toList = ['\x60'] := rfl
    have hline : "_".toList = ['_'] := rfl
    rw [identity_of_generic hparams, label, if_neg hparams, Text.intercalate_concat_append,
      fullName_eq_intercalate]
    simp only [String.toList_append, List.append_assoc, hbackquote, hline, List.cons_append,
      List.nil_append]
    rw [hpath, Generator.fileStem_cons (by decide), if_pos rfl, Generator.fileStem_toString]

lemma dot_notMem_label (hc : c.WellNamed) : '.' ∉ c.label.toList := by
  have hname := Generator.dot_notMem_of_isTypeName hc.name
  have hcount := Text.notMem_toString (c := '.') (by decide) c.typeParams.length
  unfold label
  split
  · exact hname
  · simp only [String.toList_append, List.mem_append, not_or]
    exact ⟨hname, by decide, hcount⟩

/-- A stem tells the modules and the label. -/
lemma eq_of_fileStem_eq (hf : f.WellNamed) (hg : g.WellNamed)
    (h : Generator.fileStem f.identity.toList = Generator.fileStem g.identity.toList) :
    f.modules = g.modules ∧ f.label = g.label := by
  have hparts : ∀ {c : Candidate}, c.WellNamed →
      ∀ part ∈ c.modules ++ [c.label], '.' ∉ part.toList := by
    intro c hc part hpart
    rcases List.mem_append.1 hpart with hm | hl
    · exact Generator.dot_notMem_of_isTypeName (hc.modules part hm)
    · rw [List.mem_singleton.1 hl]
      exact dot_notMem_label hc
  rw [fileStem_identity hf, fileStem_identity hg, String.toList_inj] at h
  have hlists := Text.eq_of_intercalate_dot_eq (by simp) (by simp) (hparts hf) (hparts hg) h
  simpa using List.append_inj' hlists rfl

/-- A type that is named like a generic one and the number of its parameters shadows it. -/
lemma shadows_of_label_eq (hf : f.typeParams = []) (hg : g.typeParams ≠ [])
    (hmodules : f.modules = g.modules) (hlabel : f.label = g.label) :
    Shadows f.identity g.identity := by
  refine ⟨g.fullName, g.typeParams.length, ?_, identity_of_generic hg⟩
  rw [label, label, if_pos hf, if_neg hg] at hlabel
  rw [identity_of_plain hf, fullName_eq_intercalate, fullName_eq_intercalate, hmodules, hlabel,
    Text.intercalate_concat_append, String.append_assoc]

/-- The number behind the last low line of a label is the number of type parameters, if there are
type parameters at all. -/
lemma identity_eq_of_label_eq (hparams : f.typeParams = [] ↔ g.typeParams = [])
    (hmodules : f.modules = g.modules) (hlabel : f.label = g.label) : f.identity = g.identity := by
  unfold label at hlabel
  by_cases hf : f.typeParams = []
  · have hg := hparams.1 hf
    rw [if_pos hf, if_pos hg] at hlabel
    rw [identity_of_plain hf, identity_of_plain hg, fullName_eq_intercalate,
      fullName_eq_intercalate, hmodules, hlabel]
  · have hg := mt hparams.2 hf
    rw [if_neg hf, if_neg hg] at hlabel
    have hlists := congrArg String.toList hlabel
    simp only [String.toList_append] at hlists
    obtain ⟨hname, hcount⟩ := Text.eq_of_stop_append (Text.notMem_toString (by decide) _)
      (Text.notMem_toString (by decide) _) hlists
    rw [identity_of_generic hf, identity_of_generic hg, fullName_eq_intercalate,
      fullName_eq_intercalate, hmodules, String.toList_inj.1 hname, String.toList_inj.1 hcount]

/-- Two different identities have the same stem exactly if one shadows the other. -/
theorem fileStem_eq_iff (hf : f.WellNamed) (hg : g.WellNamed) (hne : f.identity ≠ g.identity) :
    Generator.fileStem f.identity.toList = Generator.fileStem g.identity.toList ↔
      Shadows f.identity g.identity ∨ Shadows g.identity f.identity := by
  constructor
  · intro h
    obtain ⟨hmodules, hlabel⟩ := eq_of_fileStem_eq hf hg h
    by_cases hfp : f.typeParams = [] <;> by_cases hgp : g.typeParams = []
    · exact absurd (identity_eq_of_label_eq (iff_of_true hfp hgp) hmodules hlabel) hne
    · exact Or.inl (shadows_of_label_eq hfp hgp hmodules hlabel)
    · exact Or.inr (shadows_of_label_eq hgp hfp hmodules.symm hlabel.symm)
    · exact absurd (identity_eq_of_label_eq (iff_of_false hfp hgp) hmodules hlabel) hne
  · rintro (h | h)
    · exact h.fileStem_eq
    · exact h.fileStem_eq.symm

end Candidate

end Stencil
