import Mathlib.Data.Finset.Image
import Stencil.Digest.Xxh64
import Stencil.Proofs.Memo.Calls
import Stencil.Proofs.Pattern.ScanMemo

/-!
# Requests for remembered scans

A memo of scans is asked for the placeholders of patterns and for their coverage, with fillers of
either style in any order.  It knows a pattern by its digest and the bound of the filler, so that
each request is a call for this key, which derives the scan.  As long as no two of the patterns have
the same hash, the first call for a key derives the scan that is asked for, whoever made it.

The main results are

* `ScanMemo.askAll_afterRequests`: the requests are answered as if nothing were remembered;
* `ScanMemo.remembered_exact`: what calls on any memo give, and what requests to a memo of scans do.
-/

namespace Stencil.ScanMemo

/-- What a memo of scans is asked for. -/
inductive Request where
  | placeholders (filler : Filler) (pattern : String)
  | coverage (filler : Filler) (pattern : String) (bindings : Bindings)

/-- What a memo of scans answers. -/
inductive Answer where
  | placeholders (found : List Placeholder)
  | coverage (coverage : Coverage)
deriving DecidableEq

namespace Request

/-- The filler whose placeholders are asked for. -/
def filler : Request → Filler
  | placeholders f _ => f
  | coverage f _ _ => f

/-- The pattern whose placeholders are asked for. -/
def pattern : Request → String
  | placeholders _ pattern => pattern
  | coverage _ pattern _ => pattern

/-- The answer that some placeholders give. -/
def answer (found : List Placeholder) : Request → Answer
  | placeholders _ _ => .placeholders found
  | coverage _ _ b => .coverage (Coverage.between found b)

/-- The answer of a scan made for the request. -/
def direct (r : Request) : Answer := r.answer (r.filler.placeholders r.pattern)

/-- The pattern, and the bound on the length of names in it. -/
def scan (r : Request) : String × Nat := (r.pattern, r.filler.bound)

end Request

section Hash

variable [TextHash]

/-- The answer of a memo to a request, and the memo afterwards. -/
def ask (memo : ScanMemo) : Request → Answer × ScanMemo
  | .placeholders f pattern =>
    (.placeholders (memo.placeholders f pattern).1, (memo.placeholders f pattern).2)
  | .coverage f pattern b =>
    (.coverage (memo.coverage f pattern b).1, (memo.coverage f pattern b).2)

/-- The answers to requests made one after the other, and the memo afterwards. -/
def askAll (memo : ScanMemo) : List Request → List Answer × ScanMemo
  | [] => ([], memo)
  | r :: rest =>
    ((memo.ask r).1 :: ((memo.ask r).2.askAll rest).1, ((memo.ask r).2.askAll rest).2)

/-- The key that the scan for a request is remembered under. -/
def Request.key (r : Request) : Digest × Nat := ScanMemo.key r.filler r.pattern

/-- The scan for a request. -/
def Request.derive (r : Request) (_ : Unit) : List Placeholder := r.filler.placeholders r.pattern

/-- The call that a request makes. -/
def Request.call (r : Request) : Memo.Call (Digest × Nat) (List Placeholder) :=
  .fetch r.key r.derive

/-- A memo that is empty at first, after some requests. -/
def afterRequests (requests : List Request) : ScanMemo := Memo.afterAll (requests.map Request.call)

lemma ask_eq (memo : ScanMemo) (r : Request) :
    memo.ask r = (r.answer (Memo.fetch memo r.key r.derive).value, Memo.after memo r.call) := by
  cases r <;> rfl

/-- No request empties the memo. -/
lemma recent_calls (requests : List Request) :
    Memo.recent (requests.map Request.call) = requests.map fun r => (r.key, r.derive) := by
  have hclear : ∀ call ∈ requests.map Request.call, (!call.isClear) = true := by
    intro call hcall
    obtain ⟨r, -, rfl⟩ := List.mem_map.1 hcall
    rfl
  rw [Memo.recent, List.rtakeWhile_eq_self_iff.2 hclear, List.filterMap_map,
    ← List.filterMap_eq_map]
  rfl

/-- The first of the requests with the key of a request has its pattern and its bound. -/
lemma ask_afterRequests {requests : List Request} {r : Request}
    (hinj : Set.InjOn TextHash.hash {text | text ∈ (requests ++ [r]).map Request.pattern}) :
    (afterRequests requests).ask r = (r.direct, afterRequests (requests ++ [r])) := by
  have hafter : afterRequests (requests ++ [r]) = Memo.after (afterRequests requests) r.call := by
    rw [afterRequests, List.map_append]
    exact Memo.afterAll_concat _ _
  rw [ask_eq, hafter, Request.direct, afterRequests, Memo.value_fetch_afterAll, recent_calls]
  congr 2
  cases hfirst : Table.lookup? r.key (requests.map fun r => (r.key, r.derive)) with
  | none => rfl
  | some derive =>
    -- the earlier request may be of the other kind, and its filler of the other style
    obtain ⟨first, hmem, heq⟩ := List.mem_map.1 (Table.mem_of_lookup?_eq_some hfirst)
    obtain ⟨hkey, rfl⟩ := Prod.mk.inj heq
    obtain ⟨hdigest, hbound⟩ := Prod.mk.inj hkey
    have hpattern : first.pattern = r.pattern := by
      refine hinj ?_ ?_ (Digest.ofPattern_eq_iff.1 hdigest)
      · exact List.mem_map_of_mem (List.mem_append_left _ hmem)
      · exact List.mem_map_of_mem (List.mem_append_right _ (List.mem_singleton_self r))
    rw [Option.getD_some, Request.derive, Filler.placeholders, hbound, hpattern]
    rfl

/-- As long as the patterns have different hashes, requests are answered as if nothing were
remembered. -/
theorem askAll_afterRequests {earlier later : List Request}
    (hinj : Set.InjOn TextHash.hash {text | text ∈ (earlier ++ later).map Request.pattern}) :
    (afterRequests earlier).askAll later =
      (later.map Request.direct, afterRequests (earlier ++ later)) := by
  -- on the later requests: each of them is an earlier one for those behind it
  induction later generalizing earlier with
  | nil => rw [List.append_nil]; rfl
  | cons r rest ih =>
    rw [List.append_cons] at hinj
    have hnow : Set.InjOn TextHash.hash {text | text ∈ (earlier ++ [r]).map Request.pattern} :=
      hinj.mono fun text htext => List.map_subset _ (List.subset_append_left _ _) htext
    rw [askAll, ask_afterRequests hnow, ih hinj, List.append_cons earlier r rest, List.map_cons]

/-- A memo that knows patterns by their digests remembers as many scans as distinct patterns and
bounds have been asked for. -/
theorem size_afterRequests {requests : List Request}
    (hinj : Set.InjOn TextHash.hash {text | text ∈ requests.map Request.pattern}) :
    (afterRequests requests).size = (requests.map Request.scan).toFinset.card := by
  let digested : String × Nat → Digest × Nat := Prod.map Digest.ofPattern id
  have hkeys : (Memo.recent (requests.map Request.call)).map Prod.fst =
      (requests.map Request.scan).map digested := by
    rw [recent_calls, List.map_map, List.map_map]
    rfl
  have himage : ((requests.map Request.scan).map digested).toFinset =
      (requests.map Request.scan).toFinset.image digested :=
    Multiset.toFinset_map digested ↑(requests.map Request.scan)
  rw [afterRequests, Memo.size_afterAll, hkeys, himage]
  refine Finset.card_image_of_injOn fun s hs t ht heq => ?_
  have hpatterns : ∀ scan ∈ requests.map Request.scan, scan.1 ∈ requests.map Request.pattern := by
    intro scan hscan
    obtain ⟨r, hr, rfl⟩ := List.mem_map.1 hscan
    exact List.mem_map_of_mem hr
  rw [List.coe_toFinset] at hs ht
  obtain ⟨hdigest, hbound⟩ := Prod.mk.inj heq
  exact Prod.ext (hinj (hpatterns s hs) (hpatterns t ht) (Digest.ofPattern_eq_iff.1 hdigest)) hbound

/-- A call on a memo gives what the first call for its key since the memo was last emptied derives,
it derives a value itself exactly if it is this call, and the memo holds one value for each of the
keys.  Hence requests to a memo of scans, as long as the patterns have different hashes, are
answered with the scans of the patterns for the fillers, and the memo holds one for each of the
patterns and bounds. -/
theorem remembered_exact :
    (∀ {κ υ : Type} [DecidableEq κ] (calls : List (Memo.Call κ υ)),
      (∀ key derive,
        (Memo.fetch (Memo.afterAll calls) key derive).value =
            (Table.lookup? key (Memo.recent calls)).getD derive () ∧
          ((Memo.fetch (Memo.afterAll calls) key derive).derived = true ↔
            key ∉ (Memo.recent calls).map Prod.fst)) ∧
        (Memo.afterAll calls).size = ((Memo.recent calls).map Prod.fst).toFinset.card) ∧
    ∀ requests : List Request,
      Set.InjOn TextHash.hash {text | text ∈ requests.map Request.pattern} →
        (empty.askAll requests).1 = requests.map Request.direct ∧
          (empty.askAll requests).2.size = (requests.map Request.scan).toFinset.card := by
  constructor
  · intro κ υ _ calls
    exact ⟨fun key derive => ⟨Memo.value_fetch_afterAll calls key derive,
      Memo.derived_fetch_afterAll calls key derive⟩, Memo.size_afterAll calls⟩
  · intro requests hinj
    have hall : (afterRequests []).askAll requests =
        (requests.map Request.direct, afterRequests requests) := askAll_afterRequests hinj
    exact ⟨congrArg Prod.fst hall, (congrArg Table.size (congrArg Prod.snd hall)).trans
      (size_afterRequests hinj)⟩

end Hash

/-- A name that is too long for one style and not for the other one: the scans for the two are
remembered apart, and what is asked for again is not scanned again. -/
theorem remembered_exact_styles :
    let name := String.ofList (List.replicate 40 'x')
    let long := String.ofList ('{' :: name.toList ++ ['}'])
    let requests : List Request :=
      [.placeholders (.ofStyle .simple) long, .coverage (.ofStyle .robust) long .empty,
        .placeholders (.ofStyle .robust) "\x7bName", .coverage (.ofStyle .simple) long .empty]
    let calls : List (Memo.Call String Nat) :=
      [.fetch "a" fun _ => 1, .clear, .fetch "a" fun _ => 2, .fetch "a" fun _ => 3]
    Set.InjOn TextHash.hash {text | text ∈ requests.map Request.pattern} ∧
      (empty.askAll requests).1 =
        [.placeholders [], .coverage ⟨[⟨name, 0, ⟨⟨1, 1⟩, 42⟩⟩], []⟩, .placeholders [],
          .coverage ⟨[], []⟩] ∧
      (empty.askAll requests).2.size = 3 ∧
      (Memo.fetch (Memo.afterAll calls) "a" fun _ => 4).value = 2 ∧
      (Memo.afterAll calls).size = 1 := by
  intro name long requests calls
  have hhash : ∀ s ∈ requests.map Request.pattern, ∀ t ∈ requests.map Request.pattern,
      TextHash.hash s = TextHash.hash t → s = t := by decide +kernel
  have hinj : Set.InjOn TextHash.hash {text | text ∈ requests.map Request.pattern} :=
    fun s hs t ht h => hhash s hs t ht h
  obtain ⟨hfetches, hsize⟩ := remembered_exact.1 calls
  obtain ⟨hanswers, hscans⟩ := remembered_exact.2 requests hinj
  refine ⟨hinj, hanswers.trans ?_, hscans.trans ?_, (hfetches "a" _).1, hsize.trans ?_⟩
  · decide +kernel
  · decide +kernel
  · decide +kernel

end Stencil.ScanMemo
