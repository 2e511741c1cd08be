import Stencil.Digest.Xxh64
import Stencil.Proofs.Bindings.Writes

/-!
# Defining bindings by pairs

Pairs define bindings exactly if their texts are distinct keys.  Then to define is to write, and the
order of the pairs does not count.  Otherwise there is a first pair that is flawed, because its text
is no key or stands in an earlier pair already, and the error is about this pair.

The main results are

* `Bindings.ofPairs?_eq_ok_iff`: which pairs define bindings, and which bindings these are;
* `Bindings.sound_take_iff`: the pairs in front of the first flawed one;
* `Bindings.ofPairs?_exact`: which bindings or which error pairs give;
* `Bindings.writes_exact`: the last write wins, from whatever bindings it started.
-/

namespace Stencil

/-- A fold that may fail does so at the first element that fails behind those in front of it. -/
lemma foldlM_eq_error_iff {α σ ε : Type} {f : σ → α → Except ε σ} {s : σ} {l : List α} {e : ε} :
    l.foldlM f s = .error e ↔
      ∃ (i : Fin l.length) (t : σ), (l.take i).foldlM f s = .ok t ∧ f t l[i] = .error e := by
  induction l generalizing s with
  | nil =>
    constructor
    · intro h
      cases h
    · rintro ⟨i, -⟩
      exact i.elim0
  | cons x l ih =>
    -- either at the first element, or at a later one behind it
    refine Iff.trans ?_ Fin.exists_fin_succ.symm
    cases hx : f s x with
    | error d => simp [List.foldlM_cons, hx, bind, Except.bind, pure, Except.pure]
    | ok next => simp [List.foldlM_cons, hx, ih, bind, Except.bind, pure, Except.pure]

namespace Bindings

variable {pairs : List Write} {b : Bindings} {text : String}

/-! ## One pair -/

lemma contains_text_eq (b : Bindings) (key : Key) : b.contains key.text = b.table.contains key := by
  rw [contains, get?, Key.ofString?_text]
  rfl

/-- A text is defined if it is a key that is not bound yet, and else the first of these to fail is
told. -/
lemma define?_eq (b : Bindings) (text : String) (value : Option String) :
    b.define? text value =
      if Key.isValid text = false then .error (.invalidKey text)
      else if b.contains text = true then .error (.duplicateKey text)
      else .ok (b.after (text, value)) := by
  cases h : Key.isValid text with
  | false => simp [define?, Key.ofString?_of_not_isValid h]
  | true =>
    have hcontains := b.contains_text_eq ⟨text, h⟩
    have hafter : b.after (text, value) = b.put ⟨text, h⟩ value := after_of_isValid h
    simp [define?, Key.ofString?_of_isValid h, hafter, hcontains]

lemma define?_eq_ok_iff {value : Option String} {next : Bindings} :
    b.define? text value = .ok next ↔
      Key.isValid text = true ∧ b.contains text = false ∧ next = b.after (text, value) := by
  rw [define?_eq]
  cases Key.isValid text <;> cases b.contains text <;> simp [eq_comm]

lemma define?_eq_error_iff {value : Option String} {e : BindingError} :
    b.define? text value = .error e ↔
      (Key.isValid text = false ∨ b.contains text = true) ∧
        e = if Key.isValid text then .duplicateKey text else .invalidKey text := by
  rw [define?_eq]
  cases Key.isValid text <;> cases b.contains text <;> simp [eq_comm]

/-! ## Sound pairs -/

@[simp] lemma ofPairs?_nil : ofPairs? [] = .ok empty := rfl

lemma ofPairs?_concat (pairs : List Write) (pair : Write) :
    ofPairs? (pairs ++ [pair]) = (ofPairs? pairs).bind fun b => b.define? pair.1 pair.2 := by
  rw [ofPairs?, List.foldlM_append, ← ofPairs?]
  cases ofPairs? pairs with
  | error e => rfl
  | ok b => exact bind_pure (b.define? pair.1 pair.2)

/-- Pairs are sound if their texts are distinct keys. -/
structure Sound (pairs : List Write) : Prop where
  isValid : ∀ pair ∈ pairs, Key.isValid pair.1 = true
  nodup : (pairs.map Prod.fst).Nodup

lemma sound_nil : Sound [] := ⟨by simp, List.nodup_nil⟩

lemma Sound.accepted_eq (h : Sound pairs) : accepted pairs = pairs :=
  List.filter_eq_self.2 h.isValid

lemma sound_concat_iff {pair : Write} :
    Sound (pairs ++ [pair]) ↔
      Sound pairs ∧ Key.isValid pair.1 = true ∧ pair.1 ∉ pairs.map Prod.fst := by
  have hnodup : ((pairs ++ [pair]).map Prod.fst).Nodup ↔
      pair.1 ∉ pairs.map Prod.fst ∧ (pairs.map Prod.fst).Nodup := by
    rw [((List.perm_append_singleton pair pairs).map Prod.fst).nodup_iff, List.map_cons,
      List.nodup_cons]
  constructor
  · rintro ⟨hvalid, h⟩
    rw [List.forall_mem_append, List.forall_mem_singleton] at hvalid
    obtain ⟨hfresh, h⟩ := hnodup.1 h
    exact ⟨⟨hvalid.1, h⟩, hvalid.2, hfresh⟩
  · rintro ⟨⟨hvalid, h⟩, hpair, hfresh⟩
    refine ⟨?_, hnodup.2 ⟨hfresh, h⟩⟩
    rw [List.forall_mem_append, List.forall_mem_singleton]
    exact ⟨hvalid, hpair⟩

/-- Sound pairs define the bindings that they are written to; no other pairs define any. -/
theorem ofPairs?_eq_ok_iff :
    ofPairs? pairs = .ok b ↔ Sound pairs ∧ b = empty.afterAll pairs := by
  -- on the pairs up to the last one, which is defined if the others are and do not bind its text
  induction pairs using List.reverseRecOn generalizing b with
  | nil =>
    rw [ofPairs?_nil, Except.ok.injEq, eq_comm]
    exact (and_iff_right sound_nil).symm
  | append_singleton pairs pair ih =>
    rw [ofPairs?_concat, sound_concat_iff, afterAll_concat]
    constructor
    · intro h
      cases hpairs : ofPairs? pairs with
      | error e => rw [hpairs] at h; cases h
      | ok front =>
        obtain ⟨hsound, rfl⟩ := ih.1 hpairs
        rw [hpairs] at h
        obtain ⟨hvalid, hfresh, rfl⟩ := define?_eq_ok_iff.1 h
        rw [← Bool.not_eq_true, contains_afterAll_empty_iff, hsound.accepted_eq] at hfresh
        exact ⟨⟨hsound, hvalid, hfresh⟩, rfl⟩
    · rintro ⟨⟨hsound, hvalid, hfresh⟩, rfl⟩
      rw [ih.2 ⟨hsound, rfl⟩]
      refine define?_eq_ok_iff.2 ⟨hvalid, ?_, rfl⟩
      rw [← Bool.not_eq_true, contains_afterAll_empty_iff, hsound.accepted_eq]
      exact hfresh

/-! ## Flawed pairs -/

/-- A pair is flawed if its text is no key, or if it is the text of an earlier pair. -/
def IsFlawed (pairs : List Write) (i : Fin pairs.length) : Prop :=
  Key.isValid pairs[i].1 = false ∨ ∃ j < i, pairs[j].1 = pairs[i].1

instance : DecidablePred (IsFlawed pairs) := fun _ => inferInstanceAs (Decidable (_ ∨ _))

lemma mem_map_take_iff (i : Fin pairs.length) :
    text ∈ (pairs.take i).map Prod.fst ↔ ∃ j < i, pairs[j].1 = text := by
  simp only [List.mem_map, List.mem_take_iff_getElem]
  constructor
  · rintro ⟨pair, ⟨j, hj, rfl⟩, rfl⟩
    exact ⟨⟨j, by omega⟩, Fin.lt_def.2 (by dsimp; omega), rfl⟩
  · rintro ⟨j, hj, rfl⟩
    exact ⟨_, ⟨j, by omega, rfl⟩, rfl⟩

/-- One more pair keeps sound pairs sound exactly if it is not flawed. -/
lemma sound_take_succ_iff (i : Fin pairs.length) :
    Sound (pairs.take (i + 1)) ↔ Sound (pairs.take i) ∧ ¬ IsFlawed pairs i := by
  rw [← List.take_concat_get' _ _ i.isLt, sound_concat_iff, mem_map_take_iff, IsFlawed, not_or,
    Bool.not_eq_false]
  rfl

/-- Pairs are sound up to the first that is flawed. -/
theorem sound_take_iff (i : Fin pairs.length) :
    Sound (pairs.take i) ↔ ∀ j < i, ¬ IsFlawed pairs j := by
  obtain ⟨n, hn⟩ := i
  induction n with
  | zero => simp [sound_nil, Fin.lt_def]
  | succ n ih =>
    have hn' : n < pairs.length := Nat.lt_of_succ_lt hn
    rw [sound_take_succ_iff ⟨n, hn'⟩, ih]
    constructor
    · rintro ⟨hfront, hlast⟩ j hj
      rcases Nat.lt_succ_iff_lt_or_eq.1 hj with hj | hj
      · exact hfront j hj
      · obtain rfl : j = ⟨n, hn'⟩ := Fin.ext hj
        exact hlast
    · intro h
      exact ⟨fun j hj => h j (Nat.lt_succ_of_lt hj), h _ (Nat.lt_succ_self n)⟩

/-- The error is the one of the first flawed pair. -/
lemma ofPairs?_eq_error_iff {e : BindingError} :
    ofPairs? pairs = .error e ↔
      ∃ i, IsFlawed pairs i ∧ (∀ j < i, ¬ IsFlawed pairs j) ∧
        e = if Key.isValid pairs[i].1 then .duplicateKey pairs[i].1
          else .invalidKey pairs[i].1 := by
  rw [ofPairs?, foldlM_eq_error_iff]
  refine exists_congr fun i => ?_
  rw [← ofPairs?]
  constructor
  · rintro ⟨b, hb, he⟩
    obtain ⟨hsound, rfl⟩ := ofPairs?_eq_ok_iff.1 hb
    rw [define?_eq_error_iff, contains_afterAll_empty_iff, hsound.accepted_eq,
      mem_map_take_iff] at he
    exact ⟨he.1, (sound_take_iff i).1 hsound, he.2⟩
  · rintro ⟨hflawed, hfirst, he⟩
    have hsound := (sound_take_iff i).2 hfirst
    refine ⟨_, ofPairs?_eq_ok_iff.2 ⟨hsound, rfl⟩, ?_⟩
    rw [define?_eq_error_iff, contains_afterAll_empty_iff, hsound.accepted_eq, mem_map_take_iff]
    exact ⟨hflawed, he⟩

/-! ## The order of the pairs -/

/-- Writes one after the other, up to the first that fails. -/
def insertAll? (b : Bindings) (writes : List Write) : Except BindingError Bindings :=
  writes.foldlM (fun b write => b.insert? write.1 write.2) b

lemma insertAll?_of_isValid {writes : List Write} (b : Bindings)
    (h : ∀ write ∈ writes, Key.isValid write.1 = true) :
    b.insertAll? writes = .ok (b.afterAll writes) := by
  induction writes generalizing b with
  | nil => rfl
  | cons write writes ih =>
    rw [List.forall_mem_cons] at h
    rw [insertAll?, List.foldlM_cons, insert?_of_isValid h.1, ← after_of_isValid h.1]
    exact ih _ h.2

lemma Sound.perm {order : List Write} (h : Sound pairs) (hperm : order.Perm pairs) :
    Sound order where
  isValid pair hpair := h.isValid pair (hperm.mem_iff.1 hpair)
  nodup := (hperm.map Prod.fst).nodup_iff.2 h.nodup

/-- Sound pairs say what each text is bound to. -/
lemma Sound.get?_afterAll_eq_some_iff (h : Sound pairs) {value : Option String} :
    (empty.afterAll pairs).get? text = some value ↔ (text, value) ∈ pairs := by
  rw [get?_afterAll_empty_eq_some_iff, h.accepted_eq, Table.isLast_iff_mem h.nodup]

lemma Sound.get?_afterAll_perm {order : List Write} (h : Sound pairs) (hperm : order.Perm pairs)
    (text : String) : (empty.afterAll order).get? text = (empty.afterAll pairs).get? text :=
  Option.ext fun value => by
    rw [(h.perm hperm).get?_afterAll_eq_some_iff, h.get?_afterAll_eq_some_iff, hperm.mem_iff]

/-- **Pairs define bindings exactly if their texts are distinct keys.**  Then writing them in any
order goes through, and gives equal bindings with the same digest.  Otherwise the error is about
the first pair whose text is no key or stands in an earlier pair; it says that the text is no key
if it is none, and else that it is there already. -/
theorem ofPairs?_exact [TextHash] (pairs : List Write) :
    ((∃ b, ofPairs? pairs = .ok b) ↔
      (∀ pair ∈ pairs, Key.isValid pair.1 = true) ∧ (pairs.map Prod.fst).Nodup) ∧
    (∀ b, ofPairs? pairs = .ok b → ∀ order : List Write, order.Perm pairs →
      ∃ written, empty.insertAll? order = .ok written ∧ (written == b) = true ∧
        written.digest = b.digest) ∧
    ∀ e, ofPairs? pairs = .error e ↔
      ∃ i, IsFlawed pairs i ∧ (∀ j < i, ¬ IsFlawed pairs j) ∧
        e = if Key.isValid pairs[i].1 then .duplicateKey pairs[i].1
          else .invalidKey pairs[i].1 := by
  refine ⟨⟨?_, ?_⟩, ?_, fun e => ofPairs?_eq_error_iff⟩
  · rintro ⟨b, hb⟩
    have hsound := (ofPairs?_eq_ok_iff.1 hb).1
    exact ⟨hsound.isValid, hsound.nodup⟩
  · rintro ⟨hvalid, hnodup⟩
    exact ⟨_, ofPairs?_eq_ok_iff.2 ⟨⟨hvalid, hnodup⟩, rfl⟩⟩
  · intro b hb order hperm
    obtain ⟨hsound, rfl⟩ := ofPairs?_eq_ok_iff.1 hb
    have hget := hsound.get?_afterAll_perm hperm
    exact ⟨_, insertAll?_of_isValid empty (hsound.perm hperm).isValid, beq_iff.2 hget,
      digest_congr hget⟩

/-- An absence and an empty text give bindings, in either order.  A text that comes again is told
before a text behind it that is no key, and a text that is no key is told as such even where it
comes again. -/
theorem ofPairs?_exact_first :
    let pairs : List Write := [("Ok", none), ("Err", some "")]
    (∃ b, ofPairs? pairs = .ok b ∧ ∃ written, empty.insertAll? pairs.reverse = .ok written ∧
      (written == b) = true ∧ written.digest = b.digest) ∧
    ofPairs? [("Ok", none), ("Err", some ""), ("Ok", none), ("1st", none)] =
      .error (.duplicateKey "Ok") ∧
    ofPairs? [("Ok", none), ("1st", none), ("1st", some "u8"), ("Ok", none)] =
      .error (.invalidKey "1st") := by
  intro pairs
  obtain ⟨hok, horder, -⟩ := ofPairs?_exact pairs
  obtain ⟨b, hb⟩ := hok.2 ⟨by decide +kernel, by decide +kernel⟩
  refine ⟨⟨b, hb, horder b hb _ pairs.reverse_perm⟩, ?_, ?_⟩
  · exact ((ofPairs?_exact _).2.2 _).2 ⟨⟨2, by decide⟩, by decide +kernel, by decide +kernel, rfl⟩
  · exact ((ofPairs?_exact _).2.2 _).2 ⟨⟨1, by decide⟩, by decide +kernel, by decide +kernel, rfl⟩

/-! ## Writes behind the pairs -/

/-- The pairs that define bindings are like writes that went through before all others. -/
lemma reflects_of_ofPairs? {start : Bindings} (h : ofPairs? pairs = .ok start)
    (writes : List Write) : (start.afterAll writes).Reflects (accepted (pairs ++ writes)) := by
  obtain ⟨-, rfl⟩ := ofPairs?_eq_ok_iff.1 h
  rw [← afterAll_append]
  exact reflects_afterAll _

/-- **The last write wins,** whether bindings are written from nothing or from those that pairs
define.  A write fails exactly if its text is no key, and then nothing is changed; what is asked of
the bindings is answered by the last of the writes that went through, the pairs before all others;
and the digest depends on nothing but these last writes. -/
theorem writes_exact [TextHash] {pairs : List Write} {start : Bindings}
    (hstart : ofPairs? pairs = .ok start) (writes : List Write) :
    let b := start.afterAll writes
    let log := accepted (pairs ++ writes)
    (∀ text value e, b.insert? text value = .error e ↔
      Key.isValid text = false ∧ e = .invalidKey text) ∧
    (∀ write : Write, Key.isValid write.1 = false → b.after write = b) ∧
    b.Reflects log ∧
    ∀ (pairs' writes' : List Write) (start' : Bindings), ofPairs? pairs' = .ok start' →
      (∀ text value, Table.IsLast text value log ↔
        Table.IsLast text value (accepted (pairs' ++ writes'))) →
      (start'.afterAll writes').digest = b.digest := by
  intro b log
  have hb : b.Reflects log := reflects_of_ofPairs? hstart writes
  refine ⟨fun text value e => insert?_eq_error_iff, fun write => after_of_not_isValid, hb,
    fun pairs' writes' start' hstart' h => ?_⟩
  have hb' := reflects_of_ofPairs? hstart' writes'
  exact digest_congr fun text => (hb.get?_eq hb' h text).symm

/-- Two pairs, and then five writes: one under a text that is no key, two that replace a value of
the pairs, and two under one new key.  The digest is the one of three writes in another order. -/
theorem writes_exact_replaced :
    let pairs : List Write := [("Name", some "Lookup"), ("Ok", none)]
    let writes : List Write := [("\x7bName\x7d", some "Search"), ("Name", some "Größe"),
      ("Err", some "absent"), ("Ok", some "u8"), ("Err", none)]
    ∃ start, ofPairs? pairs = .ok start ∧
      let b := start.afterAll writes
      b.insert? "\x7bName\x7d" none = .error (.invalidKey "\x7bName\x7d") ∧
      b.after ("\x7bName\x7d", none) = b ∧
      b.get? "Name" = some (some "Größe") ∧ b.get? "Err" = some none ∧ b.get? "Value" = none ∧
      b.replacement? "Err" = some "" ∧ b.size = 3 ∧ b.replacementBytes = 9 ∧
      (empty.afterAll [("Err", none), ("Ok", some "u8"), ("Name", some "Größe")]).digest =
        b.digest := by
  intro pairs writes
  let others : List Write := [("Err", none), ("Ok", some "u8"), ("Name", some "Größe")]
  have hstart : ofPairs? pairs = .ok (empty.afterAll pairs) :=
    ofPairs?_eq_ok_iff.2 ⟨⟨by decide +kernel, by decide +kernel⟩, rfl⟩
  have haccepted : accepted (pairs ++ writes) = pairs ++ writes.tail := by decide +kernel
  have hothers : accepted ([] ++ others) = others := by decide +kernel
  have hlast : ∀ text, Table.lookup? text (pairs ++ writes.tail).reverse =
      Table.lookup? text others.reverse := by
    intro text
    by_cases h : text ∈ ["Name", "Ok", "Err"]
    · revert text
      decide +kernel
    · simp only [List.mem_cons, List.not_mem_nil, or_false, not_or] at h
      simp [Table.lookup?, pairs, writes, others, Ne.symm h.1, Ne.symm h.2.1, Ne.symm h.2.2]
  obtain ⟨herror, hafter, hreflects, hdigest⟩ := writes_exact hstart writes
  rw [haccepted] at hreflects hdigest
  refine ⟨_, hstart, (herror _ _ _).2 ⟨by decide +kernel, rfl⟩, hafter _ (by decide +kernel),
    (hreflects.get?_eq_some_iff _ _).2 ?_, (hreflects.get?_eq_some_iff _ _).2 ?_,
    (hreflects.get?_eq_none_iff _).2 (by decide +kernel),
    (hreflects.replacement?_eq_some_iff _ _).2 ⟨none, ?_, rfl⟩,
    hreflects.size_eq.trans (by decide +kernel),
    hreflects.replacementBytes_eq.trans (by decide +kernel), hdigest [] others _ rfl ?_⟩
  · exact Table.lookup?_reverse_eq_some_iff.1 (by decide +kernel)
  · exact Table.lookup?_reverse_eq_some_iff.1 (by decide +kernel)
  · exact Table.lookup?_reverse_eq_some_iff.1 (by decide +kernel)
  · intro text value
    rw [hothers, ← Table.lookup?_reverse_eq_some_iff, hlast, Table.lookup?_reverse_eq_some_iff]

end Bindings

end Stencil
