import Stencil.Artifact.Descriptor
import Stencil.Generator.Keys
import Stencil.Proofs.Bindings.Contents
import Stencil.Proofs.Digest.Mix

/-!
# Fingerprints lose nothing beyond the hash of texts

A fingerprint folds the tag of a kind and the hashes of an identity, of keys and of values into one
word.  The folds lose nothing: if two descriptors are the same in all respects but one, then their
fingerprints are equal exactly if the hash of texts does not tell them apart in that respect.  The
kind is not hashed, so it is always told.

That bindings are the same but for one entry is put as the equality of what is left without it: the
digests of both are sums of the same words and one more.

The main results are

* `Bindings.digest_eq_iff_of_without`: digests of bindings that are the same but for one entry;
* `Descriptor.fingerprint_exact`: fingerprints of descriptors that differ in one respect.
-/

namespace Stencil

lemma Kind.tag_injective : Function.Injective Kind.tag := by
  intro a b h
  cases a <;> cases b <;> simp_all [tag]

namespace Bindings

/-- Two bindings differ at most in what one text is bound to. -/
structure DifferAt (a b : Bindings) (text : String) (v w : Option String) : Prop where
  left : a.get? text = some v
  right : b.get? text = some w
  elsewhere : ∀ other, other ≠ text → a.get? other = b.get? other

/-- The second bindings are the first ones with another key, which these do not have, in the place
of one of theirs. -/
structure Renamed (a b : Bindings) (text other : String) : Prop where
  bound : a.contains text = true
  fresh : a.contains other = false
  moved : b.get? other = a.get? text
  gone : b.contains text = false
  elsewhere : ∀ s, s ≠ text → s ≠ other → a.get? s = b.get? s

variable {a b : Bindings} {s t : String} {v w : Option String}

/-- A key that is written again differs in its value. -/
lemma differAt_put {key : Key} (h : a.get? key.text = some v) :
    a.DifferAt (a.put key w) key.text v w where
  left := h
  right := by rw [get?_put, if_pos rfl]
  elsewhere other hne := by rw [get?_put, if_neg hne]

/-- A key that is taken out and written under another name is renamed. -/
lemma renamed_put_without {key other : Key} (h : a.get? key.text = some v)
    (hfresh : a.contains other.text = false) :
    a.Renamed ((a.without key.text).put other v) key.text other.text := by
  have hbound : a.contains key.text = true := by rw [contains, h, Option.isSome_some]
  have hne : key.text ≠ other.text := fun heq => by simp [heq, hfresh] at hbound
  refine ⟨hbound, hfresh, ?_, ?_, fun s hs ht => ?_⟩
  · rw [get?_put, if_pos rfl, h]
  · rw [contains, get?_put, if_neg hne, Bindings.get?_without, if_pos rfl, Option.isSome_none]
  · rw [get?_put, if_neg ht, Bindings.get?_without, if_neg hs]

/-- What differs in one value is the same without it. -/
lemma DifferAt.get?_without (h : a.DifferAt b s v w) (text : String) :
    (a.without s).get? text = (b.without s).get? text := by
  rw [Bindings.get?_without, Bindings.get?_without]
  split
  case isTrue => rfl
  case isFalse hne => exact h.elsewhere text hne

/-- Without the key that is renamed, and without its new name, bindings are the same. -/
lemma Renamed.get?_without (h : a.Renamed b s t) (text : String) :
    (a.without s).get? text = (b.without t).get? text := by
  rw [Bindings.get?_without, Bindings.get?_without]
  have hfresh : a.get? t = none := by simpa [contains] using h.fresh
  have hgone : b.get? s = none := by simpa [contains] using h.gone
  by_cases hs : text = s
  · subst hs
    simp [hgone]
  · by_cases ht : text = t
    · subst ht
      simp [hfresh]
    · rw [if_neg hs, if_neg ht, h.elsewhere text hs ht]

variable [TextHash]

/-- Bindings that are the same without one entry of each have equal digests exactly if these two
entries have. -/
theorem digest_eq_iff_of_without (ha : a.get? s = some v) (hb : b.get? t = some w)
    (h : ∀ text, (a.without s).get? text = (b.without t).get? text) :
    a.digest = b.digest ↔ Digest.ofEntry s v = Digest.ofEntry t w := by
  have hrest : (a.without s).pairs.Perm (b.without t).pairs := perm_pairs_iff.2 h
  have ha' : a.pairs.Perm ((s, v) :: (b.without t).pairs) :=
    (pairs_perm_cons_without ha).trans (hrest.cons _)
  have hb' : b.pairs.Perm ((t, w) :: (b.without t).pairs) := pairs_perm_cons_without hb
  rw [digest, digest, Digest.combine_perm (ha'.map _), Digest.combine_perm (hb'.map _),
    List.map_cons, List.map_cons, Digest.combine_cons_eq_iff]

/-- The digests tell two values apart as far as the hash of texts does. -/
lemma DifferAt.digest_eq_iff (h : a.DifferAt b s v w) :
    a.digest = b.digest ↔ Digest.ValuesCollide v w :=
  (digest_eq_iff_of_without h.left h.right h.get?_without).trans Digest.ofEntry_eq_iff_values

/-- The digests tell two keys apart as far as the hash of texts does. -/
lemma Renamed.digest_eq_iff (h : a.Renamed b s t) :
    a.digest = b.digest ↔ TextHash.hash s = TextHash.hash t := by
  obtain ⟨value, ha⟩ := Option.isSome_iff_exists.1 h.bound
  have hb : b.get? t = some value := h.moved.trans ha
  exact (digest_eq_iff_of_without ha hb h.get?_without).trans Digest.ofEntry_eq_iff_keys

end Bindings

namespace Descriptor

variable [TextHash] {d e : Descriptor}

/-- With one identity and equal bindings, the fingerprint tells the kind. -/
lemma fingerprint_eq_iff_kinds (hidentity : d.identity = e.identity)
    (hdigest : d.bindings.digest = e.bindings.digest) :
    d.fingerprint = e.fingerprint ↔ d.kind = e.kind := by
  rw [fingerprint, fingerprint, hidentity, hdigest, Digest.mix_left_eq_iff,
    Digest.ofIdentity_eq_iff_tags, Kind.tag_injective.eq_iff]

/-- With one kind and equal bindings, the fingerprint tells the hash of the identity. -/
lemma fingerprint_eq_iff_identities (hkind : d.kind = e.kind)
    (hdigest : d.bindings.digest = e.bindings.digest) :
    d.fingerprint = e.fingerprint ↔ TextHash.hash d.identity = TextHash.hash e.identity := by
  rw [fingerprint, fingerprint, hkind, hdigest, Digest.mix_left_eq_iff, Digest.ofIdentity_eq_iff]

/-- With one identity and one kind, the fingerprint tells the digest of the bindings. -/
lemma fingerprint_eq_iff_digests (hidentity : d.identity = e.identity) (hkind : d.kind = e.kind) :
    d.fingerprint = e.fingerprint ↔ d.bindings.digest = e.bindings.digest := by
  rw [fingerprint, fingerprint, hidentity, hkind, Digest.mix_right_eq_iff]

/-- **Fingerprints lose nothing beyond the hash of texts,** whatever that hash is.  Descriptors that
differ in their kind alone have different fingerprints.  Descriptors that differ in their identity
alone, in the value of one key, or in the name of one key have equal fingerprints exactly if the
identities, the values or the names have equal hashes; an absent value counts as a text that is
hashed to one certain word. -/
theorem fingerprint_exact (d e : Descriptor) :
    (d.identity = e.identity → (d.bindings == e.bindings) = true → d.kind ≠ e.kind →
      d.fingerprint ≠ e.fingerprint) ∧
    (d.kind = e.kind → (d.bindings == e.bindings) = true →
      (d.fingerprint = e.fingerprint ↔ TextHash.hash d.identity = TextHash.hash e.identity)) ∧
    (d.identity = e.identity → d.kind = e.kind → ∀ key,
      (∀ v w, d.bindings.DifferAt e.bindings key (some v) (some w) →
        (d.fingerprint = e.fingerprint ↔ TextHash.hash v = TextHash.hash w)) ∧
      (∀ v, d.bindings.DifferAt e.bindings key (some v) none →
        (d.fingerprint = e.fingerprint ↔
          Digest.valueMark ^^^ TextHash.hash v = Digest.absentMark)) ∧
      ∀ w, d.bindings.DifferAt e.bindings key none (some w) →
        (d.fingerprint = e.fingerprint ↔
          Digest.valueMark ^^^ TextHash.hash w = Digest.absentMark)) ∧
    (d.identity = e.identity → d.kind = e.kind → ∀ key other,
      d.bindings.Renamed e.bindings key other →
        (d.fingerprint = e.fingerprint ↔ TextHash.hash key = TextHash.hash other)) := by
  refine ⟨fun hidentity hbindings hkind heq => ?_, fun hkind hbindings => ?_,
    fun hidentity hkind key => ?_, fun hidentity hkind key other h => ?_⟩
  · have hdigest := Bindings.digest_congr (Bindings.beq_iff.1 hbindings)
    exact hkind ((fingerprint_eq_iff_kinds hidentity hdigest).1 heq)
  · have hdigest := Bindings.digest_congr (Bindings.beq_iff.1 hbindings)
    exact fingerprint_eq_iff_identities hkind hdigest
  · have hvalues : ∀ v w, d.bindings.DifferAt e.bindings key v w →
        (d.fingerprint = e.fingerprint ↔ Digest.ValuesCollide v w) := fun v w h =>
      (fingerprint_eq_iff_digests hidentity hkind).trans h.digest_eq_iff
    exact ⟨fun v w => hvalues _ _, fun v => hvalues _ _, fun w => hvalues _ _⟩
  · exact (fingerprint_eq_iff_digests hidentity hkind).trans h.digest_eq_iff

omit [TextHash] in
/-- A hash that counts characters, but for the one text that it makes the same as an absence.  Of
two values, two names and two identities those of one length have one fingerprint, the kind is told
all the same, and an absence is taken for that one text and for no other. -/
theorem fingerprint_exact_lengths :
    let _ : TextHash := ⟨fun s =>
      if s = "absent" then Digest.valueMark ^^^ Digest.absentMark else UInt64.ofNat s.length⟩
    let b := Bindings.empty.putAll [(Key.name, some "Lookup"), (.index, none)]
    let d (identity : String) (kind : Kind) (b : Bindings) : Descriptor := ⟨identity, kind, b⟩
    let print (b : Bindings) : Digest := (d "Lookup" .optionHolder b).fingerprint
    (d "Lookup" .resultHolder b).fingerprint ≠ print b ∧
      (d "Search" .optionHolder b).fingerprint = print b ∧
      (b.DifferAt (b.put .name (some "Search")) "Name" (some "Lookup") (some "Search") ∧
        print b = print (b.put .name (some "Search")) ∧
        print b ≠ print (b.put .name (some "Find"))) ∧
      (b.DifferAt (b.put .index (some "absent")) "Index" none (some "absent") ∧
        print b = print (b.put .index (some "absent")) ∧
        print b ≠ print (b.put .index (some ""))) ∧
      b.Renamed ((b.without "Index").put .inner none) "Index" "Inner" ∧
        print b = print ((b.without "Index").put .inner none) ∧
        print b ≠ print ((b.without "Index").put .err none) := by
  intro hash b d print
  have hname : b.get? Key.name.text = some (some "Lookup") := by decide +kernel
  have hindex : b.get? Key.index.text = some none := by decide +kernel
  have hinner : b.contains Key.inner.text = false := by decide +kernel
  have herr : b.contains Key.err.text = false := by decide +kernel
  have hself : (b == b) = true := Bindings.beq_iff.2 fun _ => rfl
  have hsearch : b.DifferAt (b.put .name (some "Search")) "Name" (some "Lookup") (some "Search") :=
    Bindings.differAt_put hname
  have hfind : b.DifferAt (b.put .name (some "Find")) "Name" (some "Lookup") (some "Find") :=
    Bindings.differAt_put hname
  have habsent : b.DifferAt (b.put .index (some "absent")) "Index" none (some "absent") :=
    Bindings.differAt_put hindex
  have hempty : b.DifferAt (b.put .index (some "")) "Index" none (some "") :=
    Bindings.differAt_put hindex
  have hrenamed : b.Renamed ((b.without "Index").put .inner none) "Index" "Inner" :=
    Bindings.renamed_put_without hindex hinner
  have hrenamed' : b.Renamed ((b.without "Index").put .err none) "Index" "Err" :=
    Bindings.renamed_put_without hindex herr
  have hkind := (fingerprint_exact (d "Lookup" .resultHolder b) (d "Lookup" .optionHolder b)).1
    rfl hself (by decide)
  have hidentity :=
    (fingerprint_exact (d "Search" .optionHolder b) (d "Lookup" .optionHolder b)).2.1 rfl hself
  have hvalue (c : Bindings) :=
    (fingerprint_exact (d "Lookup" .optionHolder b) (d "Lookup" .optionHolder c)).2.2.1 rfl rfl
  have hkey (c : Bindings) :=
    (fingerprint_exact (d "Lookup" .optionHolder b) (d "Lookup" .optionHolder c)).2.2.2 rfl rfl
  refine ⟨hkind, hidentity.2 (by decide), ⟨hsearch, ?_, ?_⟩, ⟨habsent, ?_, ?_⟩, hrenamed, ?_, ?_⟩
  · exact ((hvalue _ "Name").1 _ _ hsearch).2 (by decide)
  · exact fun h => absurd (((hvalue _ "Name").1 _ _ hfind).1 h) (by decide)
  · exact ((hvalue _ "Index").2.2 _ habsent).2 (by decide)
  · exact fun h => absurd (((hvalue _ "Index").2.2 _ hempty).1 h) (by decide)
  · exact (hkey _ _ _ hrenamed).2 (by decide)
  · exact fun h => absurd ((hkey _ _ _ hrenamed').1 h) (by decide)

end Descriptor

end Stencil
