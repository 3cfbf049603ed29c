import LiquidMarkdown.Proofs.Pairing.Matching

/-!
# Tags in a row

Where all tags of a document are paired in the order of their numbers, an opening tag and a closing
tag belong together if the tags between them are balanced.  This file states:

* `Tag.brackets` — tags as brackets of one block type;
* `Brackets.matches_iff_of_split` — matching in a word without repetitions;
* `Associated.isSuccess_of_host` — tags that are paired have been read;
* `Associated.paired_iff_balanced` — the tags around a row are paired if the row is balanced.
-/

namespace LiquidMarkdown

/-! ## Tags as brackets -/

/-- Tags as brackets of one block type. -/
def Tag.brackets (X : Text) : Brackets Tag where
  opens t := t.isStart && t.name = X
  closes t := !t.isStart && t.isEnd && Tag.blockOfEnd t.name = X
  disjoint t h := by
    simp only [Bool.and_eq_true] at h
    simp [h.1]

namespace Brackets

variable {α : Type} {b : Brackets α} {w pre mid post : List α} {i j : α}

/-- In a word without repetitions there is one place where two letters can match. -/
theorem matches_iff_of_split (hn : w.Nodup) (hw : w = pre ++ i :: (mid ++ j :: post)) :
    b.Matches w i j ↔ b.opens i = true ∧ b.closes j = true ∧ b.Balanced mid := by
  constructor
  · rintro ⟨pre', mid', post', hw', ho, hc, hmid⟩
    -- Both letters stand in one place only, so the word between them is given.
    have hrest := (eq_of_split hn hw hw').2
    have hn' : (mid ++ j :: post).Nodup := by
      rw [hw, List.nodup_append] at hn
      exact (List.nodup_cons.1 hn.2.1).2
    have heq := (eq_of_split hn' rfl hrest).1
    rw [heq]
    exact ⟨ho, hc, hmid⟩
  · rintro ⟨ho, hc, hmid⟩
    exact ⟨pre, mid, post, hw, ho, hc, hmid⟩

end Brackets

/-! ## Numbers in a row -/

/-- The members of a list in a row have numbers in a row. -/
theorem map_getD_range' {α : Type} (pre mid post : List α) (d : α) :
    (List.range' pre.length mid.length).map (fun k => (pre ++ (mid ++ post)).getD k d) = mid := by
  -- With each member read, the list before the others grows by it.
  induction mid generalizing pre with
  | nil => rfl
  | cons m mid ih =>
      have hrest := ih (pre ++ [m])
      rw [List.length_append, List.length_singleton, List.append_assoc, List.singleton_append]
        at hrest
      rw [List.length_cons, List.range'_succ, List.map_cons, List.cons_append, hrest]
      simp

/-- A row of numbers among all of them. -/
theorem range_eq_split (i m k : Nat) :
    List.range (i + m + 2 + k) =
      List.range i ++ i :: (List.range' (i + 1) m ++ (i + m + 1) :: List.range' (i + m + 2) k) := by
  have hfirst : i :: List.range' (i + 1) (m + 1 + k) = List.range' i (m + 2 + k) := by
    have hlen : m + 2 + k = m + 1 + k + 1 := by omega
    rw [hlen, List.range'_succ]
  have hlast : (i + m + 1) :: List.range' (i + m + 2) k = List.range' (i + 1 + m) (k + 1) := by
    have hstart : i + 1 + m = i + m + 1 := by omega
    rw [hstart, List.range'_succ]
  have hmid : List.range' (i + 1) m ++ List.range' (i + 1 + m) (k + 1) =
      List.range' (i + 1) (m + 1 + k) := by
    have hlen : m + 1 + k = m + (k + 1) := by omega
    rw [hlen, List.range'_append_1]
  have hwhole : i + m + 2 + k = i + (m + 2 + k) := by omega
  rw [hlast, hmid, hfirst, hwhole, List.range_eq_range', List.range_eq_range',
    ← List.range'_append_1, Nat.zero_add]

namespace Roster

variable {r r' : Roster} {i j : TagId}

/-- What is known about a tag is what the list of all tags says. -/
theorem toTag_tag (r : Roster) (i : TagId) :
    (r.tag i).toTag = (r.map (·.toTag)).getD i absent.toTag := by
  rw [tag, List.getD_eq_getElem?_getD, List.getD_eq_getElem?_getD, List.getElem?_map]
  cases r[i]? with
  | none => rfl
  | some t => rfl

/-- The number of a tag is the number of tags before it. -/
theorem tag_of_split {pre post : List Tag} {t : Tag} (h : r.map (·.toTag) = pre ++ t :: post) :
    (r.tag pre.length).toTag = t := by
  rw [toTag_tag, h]
  simp

variable {pre body post : List Tag} {opening closing : Tag}

theorem length_of_row (h : r.map (·.toTag) = pre ++ opening :: (body ++ closing :: post)) :
    r.length = pre.length + body.length + 2 + post.length := by
  have hlength := congrArg List.length h
  simp only [List.length_map, List.length_append, List.length_cons] at hlength
  omega

/-- The numbers of the tags around a row. -/
theorem tags_of_row (h : r.map (·.toTag) = pre ++ opening :: (body ++ closing :: post)) :
    (r.tag pre.length).toTag = opening ∧
      (r.tag (pre.length + body.length + 1)).toTag = closing := by
  constructor
  · exact tag_of_split h
  · have hsplit : r.map (·.toTag) = (pre ++ opening :: body) ++ closing :: post := by
      rw [h]
      simp
    have htag := tag_of_split hsplit
    rwa [List.length_append, List.length_cons, ← Nat.add_assoc] at htag

/-- The tags of a row are balanced if their numbers are. -/
theorem balanced_range' (ha : r'.Agree r) {X : Text}
    (h : r'.map (·.toTag) = pre ++ (body ++ post)) :
    (r.brackets X).Balanced (List.range' pre.length body.length) ↔
      (Tag.brackets X).Balanced body := by
  have hbody : (List.range' pre.length body.length).map (fun k => (r'.tag k).toTag) = body := by
    have hrow := map_getD_range' pre body post absent.toTag
    rw [← h] at hrow
    simpa only [toTag_tag] using hrow
  have hopens (k : TagId) : (Tag.brackets X).opens (r'.tag k).toTag = (r.brackets X).opens k := by
    simp only [Tag.brackets, brackets, ← ha.isStart, ← ha.name]
  have hcloses (k : TagId) :
      (Tag.brackets X).closes (r'.tag k).toTag = (r.brackets X).closes k := by
    simp only [Tag.brackets, brackets, ← ha.isStart, ← ha.isEnd, ← ha.name]
  have hmap := Brackets.balanced_map_iff (w := List.range' pre.length body.length)
    (fun k _ => hopens k) fun k _ => hcloses k
  rw [hbody] at hmap
  exact hmap.symm

/-- Whether tags are paired is a matter of what is known about them, not of where they stand. -/
theorem paired_congr (h : r.map (·.toTag) = r'.map (·.toTag)) :
    r.Paired i j ↔ r'.Paired i j := by
  have hi : (r.tag i).toTag = (r'.tag i).toTag := by rw [toTag_tag, toTag_tag, h]
  have hj : (r.tag j).toTag = (r'.tag j).toTag := by rw [toTag_tag, toTag_tag, h]
  unfold Paired Joined
  rw [hi, hj]

end Roster

namespace Pairing
namespace Associated

variable {T : TagTables} {r r₀ r' : Roster} {ps : List TagId} {res : Result} {i j : TagId}

/-- A closing tag and the opening tag that it belongs to have been read, and the closing tag names
the block that was opened before. -/
theorem isSuccess_of_host (h : Associated T r r₀ ps r' res) (he : (r.tag j).isEnd = true)
    (hj : r.Host T ps j i) :
    (r'.tag i).isSuccess = true ∧ (r'.tag j).isSuccess = true ∧
      (r'.tag j).matchingId = (r'.tag i).blockId := by
  rcases h.exists_frame hj.mem.2 hj.isStart with ⟨f, rfl, hf⟩
  have hsettled := Frame.settled hf
  have hother := (hsettled.host j).2 hj
  have hend : (r'.tag j).isSuccess = true ∧ (r'.tag j).matchingId = (r'.tag f.start).blockId := by
    rw [hsettled.other j hother, hsettled.blockId]
    exact ⟨rfl, rfl⟩
  refine ⟨?_, hend.1, hend.2⟩
  rcases hf with ⟨conts, hc, _⟩ | ⟨conts, k, _, hstart, _⟩
  · -- A frame that was never closed has no closing tag.
    have hj' := (hc.host j).2 hj
    rw [Option.toList_none, List.append_nil] at hj'
    rw [hc.conts_isEnd j hj'] at he
    cases he
  · rw [hstart]
    rfl

variable {pre body post : List Tag} {opening closing : Tag}

/-- Where all tags are paired in the order of their numbers, a closing tag belongs to an opening tag
of its type if the tags between them are balanced. -/
theorem host_iff_balanced (h : Associated T r r₀ (List.range r.length) r' res)
    (hp : ∀ k ∈ List.range r.length, (r.tag k).Prepared T)
    (htags : r'.map (·.toTag) = pre ++ opening :: (body ++ closing :: post))
    (hs : opening.isStart = true) (he : closing.isEnd = true)
    (hX : Tag.blockOfEnd closing.name = opening.name) :
    r.Host T (List.range r.length) (pre.length + body.length + 1) pre.length ↔
      (Tag.brackets opening.name).Balanced body := by
  have hlen : r.length = pre.length + body.length + 2 + post.length := by
    rw [← h.agree.length_eq]
    exact Roster.length_of_row htags
  rcases Roster.tags_of_row htags with ⟨hopening, hclosing⟩
  have hstart : (r.tag pre.length).isStart = true := by
    rw [← h.agree.isStart, hopening]
    exact hs
  have hname : (r.tag pre.length).name = opening.name := by
    rw [← h.agree.name, hopening]
  have hend : (r.tag (pre.length + body.length + 1)).isEnd = true := by
    rw [← h.agree.isEnd, hclosing]
    exact he
  have hnostart : (r.tag (pre.length + body.length + 1)).isStart = false := by
    refine ((hp _ ?_).of_isEnd hend).1
    rw [List.mem_range]
    omega
  have hblock : Tag.blockOfEnd (r.tag (pre.length + body.length + 1)).name = opening.name := by
    rw [← h.agree.name, hclosing, hX]
  have hrow : r'.map (·.toTag) = (pre ++ [opening]) ++ (body ++ closing :: post) := by
    rw [htags]
    simp
  have hbalanced := Roster.balanced_range' (X := opening.name) h.agree hrow
  rw [List.length_append, List.length_singleton] at hbalanced
  -- All numbers are the word here, so the numbers between the two tags are those of the body.
  have hsplit := range_eq_split pre.length body.length post.length
  rw [← hlen] at hsplit
  rw [Roster.host_iff_matches hnostart hend, hblock,
    Brackets.matches_iff_of_split List.nodup_range hsplit, hbalanced]
  constructor
  · exact fun hmatches => hmatches.2.2
  · intro hbody
    exact ⟨Roster.opens_iff.2 ⟨hstart, hname⟩, Roster.closes_iff.2 ⟨hnostart, hend, hblock⟩, hbody⟩

/-- Where the tags between them are balanced, an opening tag and a closing tag of its type are
paired; where they are not, the tags are not paired. -/
theorem paired_iff_balanced (h : Associated T r r₀ (List.range r.length) r' res)
    (hp : ∀ k ∈ List.range r.length, (r.tag k).Prepared T)
    (htags : r'.map (·.toTag) = pre ++ opening :: (body ++ closing :: post))
    (hs : opening.isStart = true) (he : closing.isEnd = true)
    (hX : Tag.blockOfEnd closing.name = opening.name) :
    r'.Paired pre.length (pre.length + body.length + 1) ↔
      (Tag.brackets opening.name).Balanced body := by
  rw [← h.host_iff_balanced hp htags hs he hX]
  refine h.paired_iff_host ?_ ?_
  · have hlen := Roster.length_of_row htags
    rw [List.mem_range, ← h.agree.length_eq]
    omega
  · rw [← h.agree.isStart, (Roster.tags_of_row htags).1]
    exact hs

/-- Where the tags between them are balanced, both tags have been read. -/
theorem isSuccess_of_balanced (h : Associated T r r₀ (List.range r.length) r' res)
    (hp : ∀ k ∈ List.range r.length, (r.tag k).Prepared T)
    (htags : r'.map (·.toTag) = pre ++ opening :: (body ++ closing :: post))
    (hs : opening.isStart = true) (he : closing.isEnd = true)
    (hX : Tag.blockOfEnd closing.name = opening.name)
    (hb : (Tag.brackets opening.name).Balanced body) :
    opening.isSuccess = true ∧ closing.isSuccess = true ∧ closing.matchingId = opening.blockId := by
  rcases Roster.tags_of_row htags with ⟨hopening, hclosing⟩
  have hhost := (h.host_iff_balanced hp htags hs he hX).2 hb
  have hend : (r.tag (pre.length + body.length + 1)).isEnd = true := by
    rw [← h.agree.isEnd, hclosing]
    exact he
  have hsuccess := h.isSuccess_of_host hend hhost
  rw [hopening, hclosing] at hsuccess
  exact hsuccess

end Associated
end Pairing
end LiquidMarkdown
