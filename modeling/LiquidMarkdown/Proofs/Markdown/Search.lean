import LiquidMarkdown.Proofs.Construct.Offsets
import LiquidMarkdown.Proofs.Markdown.Locate
import LiquidMarkdown.Proofs.Source.LineIndex
import LiquidMarkdown.Proofs.Tag.Name

/-!
# The search for a text

A text is looked for from a cursor on: first as a whole, then by its first line, with its other
lines behind.  This file defines:

* `beginning?`, `placeBehind` — where a text that is located begins, and where the search goes on;
* `Text.firstFrom_iff` — a text is found in a given place just in case it does not occur in what is
  passed over on the way there;
* `beginning?_iff_firstFrom`, `placeBehind_of_absent`, `locate?_by_lines` — the three ways that a
  search can go.
-/

namespace LiquidMarkdown

namespace Text

variable {p t pre s z : Text} {start k : Nat}

/-! ## First occurrences -/

theorem findFrom?_eq_some_iff (hp : p ≠ []) :
    findFrom? p start t = some k ↔ p.FirstFrom t start k := by
  have hfirst {k : Nat} (h : findFrom? p start t = some k) : p.FirstFrom t start k := by
    unfold findFrom? at h
    split at h
    · next hstart =>
        obtain ⟨_, hj, rfl⟩ := Option.map_eq_some_iff.1 h
        obtain ⟨⟨a, b⟩, hab, rfl⟩ := Option.map_eq_some_iff.1 hj
        exact firstFrom_of_breakOn hp hab hstart
    · cases h
  refine ⟨hfirst, fun h => ?_⟩
  cases hfind : findFrom? p start t with
  | some k' => rw [(hfirst hfind).unique h]
  | none =>
      unfold findFrom? at hfind
      have hstart : start ≤ t.length := h.le.trans (by have := h.occursAt.le_length; omega)
      rw [if_pos hstart, Option.map_eq_none_iff, find?, Option.map_eq_none_iff] at hfind
      exact absurd h.occursAt (not_occursAt_of_breakOn hfind h.le)

theorem findFrom?_eq_none_iff (hstart : start ≤ t.length) :
    findFrom? p start t = none ↔ ¬ p <:+: t.drop start := by
  rw [findFrom?, if_pos hstart, Option.map_eq_none_iff, find?, Option.map_eq_none_iff,
    breakOn_eq_none_iff]

theorem exists_firstFrom (hp : p ≠ []) (hstart : start ≤ t.length) (h : p <:+: t.drop start) :
    ∃ k, p.FirstFrom t start k := by
  cases hfind : findFrom? p start t with
  | some k => exact ⟨k, (findFrom?_eq_some_iff hp).1 hfind⟩
  | none => exact absurd h ((findFrom?_eq_none_iff hstart).1 hfind)

theorem findFrom?_nil (hstart : start ≤ t.length) : findFrom? [] start t = some start := by
  rw [findFrom?, if_pos hstart]
  cases t.drop start <;> simp [find?, breakOn, dropPrefix?]

/-- A text whose beginnings do not end what is passed over is found behind it, just in case it does
not occur in it. -/
theorem firstFrom_iff (hp : p ≠ []) (hs : ∀ v, v <:+ s → v <+: p → v = []) :
    p.FirstFrom (pre ++ (s ++ (p ++ z))) pre.length (pre.length + s.length) ↔ ¬ p <:+: s := by
  have hpos : 0 < p.length := List.length_pos_iff.2 hp
  constructor
  · rintro h ⟨a, b, rfl⟩
    have hle := h.first (pre.length + a.length) (Nat.le_add_right _ _)
      ⟨pre ++ a, b ++ (p ++ z), by simp, by simp⟩
    simp only [List.length_append] at hle
    omega
  · intro habsent
    refine ⟨Nat.le_add_right _ _, ⟨pre ++ s, z, by simp, by simp⟩, fun k hk hoccurs => ?_⟩
    by_contra hlt
    obtain ⟨u, post, hdrop, rfl⟩ := exists_of_occursAt_drop hoccurs hk
    rw [List.drop_left] at hdrop
    -- The occurrence would begin in what is passed over.
    have hu : u <+: s := by
      refine List.prefix_of_prefix_length_le ⟨p ++ post, ?_⟩ (List.prefix_append s (p ++ z))
        (by omega)
      rw [hdrop, List.append_assoc]
    obtain ⟨v, rfl⟩ := hu
    have hv : v ≠ [] := by
      rintro rfl
      rw [List.append_nil] at hlt
      exact hlt (Nat.le_refl _)
    rw [List.append_assoc, List.append_assoc, List.append_cancel_left_eq] at hdrop
    rcases List.append_eq_append_iff.1 hdrop with ⟨w, hw, -⟩ | ⟨w, rfl, -⟩
    · exact hv (hs v (List.suffix_append u v) ⟨w, hw.symm⟩)
    · exact habsent ⟨u, w, by simp⟩

/-- A text without a delimiter does not begin where the delimiter stands, or behind it. -/
theorem eq_nil_of_suffix {u l : Text} {d : Char} (hd : d ∉ p) (hl : ∀ c ∈ l, p.head? ≠ some c) :
    ∀ v, v <:+ u ++ d :: l → v <+: p → v = [] := by
  rintro v ⟨w, hw⟩ hv
  cases v with
  | nil => rfl
  | cons c v =>
      obtain ⟨x, rfl⟩ := hv
      rcases List.append_eq_append_iff.1 hw with ⟨y, -, hy⟩ | ⟨y, -, hy⟩
      · -- The delimiter is in the beginning.
        have hmem : d ∈ c :: v := hy ▸ List.mem_append_right y List.mem_cons_self
        exact absurd (List.mem_append_left x hmem) hd
      · cases y with
        | nil =>
            obtain ⟨rfl, -⟩ := List.cons.inj hy
            exact absurd List.mem_cons_self hd
        | cons _ y =>
            obtain ⟨-, rfl⟩ := List.cons.inj hy
            exact absurd rfl (hl c (List.mem_append_right y List.mem_cons_self))

/-- A text without a delimiter does not go across it. -/
theorem isInfix_or_of_append {a b u : Text} {d : Char} (hd : d ∉ p)
    (h : a ++ p ++ b = u ++ d :: z) : p <:+: u ∨ ∃ v, a = u ++ d :: v ∧ z = v ++ p ++ b := by
  rw [List.append_assoc] at h
  rcases List.append_eq_append_iff.1 h with ⟨x, rfl, hx⟩ | ⟨x, rfl, hx⟩
  · left
    rcases List.append_eq_append_iff.1 hx with ⟨y, rfl, -⟩ | ⟨y, rfl, hy⟩
    · exact ⟨a, y, by simp⟩
    · cases y with
      | nil => exact ⟨a, [], by simp⟩
      | cons c y =>
          obtain ⟨rfl, -⟩ := List.cons.inj hy
          exact absurd (List.mem_append_right x List.mem_cons_self) hd
  · cases x with
    | nil =>
        cases p with
        | nil => exact .inl List.nil_infix
        | cons c p =>
            obtain ⟨rfl, -⟩ := List.cons.inj hx
            exact absurd List.mem_cons_self hd
    | cons c x =>
        obtain ⟨rfl, rfl⟩ := List.cons.inj hx
        exact .inr ⟨x, rfl, by simp⟩

/-! ## Fields -/

theorem splitAt_of_notMem {sep : Char} {f : Text} (hf : sep ∉ f) : splitAt sep f = [f] := by
  induction f with
  | nil => rfl
  | cons c f ih =>
      rw [List.mem_cons, not_or] at hf
      rw [splitAt, if_neg (Ne.symm hf.1), ih hf.2]

theorem splitAt_append {sep : Char} {f : Text} (hf : sep ∉ f) (t : Text) :
    splitAt sep (f ++ sep :: t) = f :: splitAt sep t := by
  induction f with
  | nil => rw [List.nil_append, splitAt, if_pos rfl]
  | cons c f ih =>
      rw [List.mem_cons, not_or] at hf
      rw [List.cons_append, splitAt, if_neg (Ne.symm hf.1), ih hf.2]

end Text

namespace Markdown

variable {source t line : Text} {lines : List Text} {segments : List (Int × Int)}
  {cursor start place : Nat}

/-! ## Located texts -/

/-- Where a text that is located begins. -/
def beginning? (source t : Text) (cursor : Nat) : Option Int :=
  (locate? source source.length t cursor).bind fun r => r.1.segments.head?.map (·.2)

/-- Where the search goes on behind a text. -/
def placeBehind (source t : Text) (cursor : Nat) : Nat :=
  ((locate? source source.length t cursor).map (·.2)).getD cursor

theorem findWithin?_length (t : Text) (cursor : Nat) :
    findWithin? source source.length t cursor = Text.findFrom? t cursor source := by
  rw [findWithin?, List.take_length]

/-- A text that occurs behind the cursor is located where it occurs first. -/
theorem locate?_of_firstFrom (ht : t ≠ []) (h : t.FirstFrom source cursor start) :
    locate? source source.length t cursor = some (.contiguous start, start + t.length) := by
  rw [locate?, if_neg ht, findWithin?_length, (Text.findFrom?_eq_some_iff ht).2 h]

/-- Other texts are located by their first lines. -/
theorem locate?_by_lines (ht : t ≠ []) (hcursor : cursor ≤ source.length)
    (h : ¬ t <:+: source.drop cursor) (hlines : Text.splitAt '\n' t = line :: lines) :
    locate? source source.length t cursor =
      (Text.findFrom? line cursor source).bind fun start =>
        (locateLines? source source.length (line.length + 1) (start + line.length) lines).bind
          fun r => some (⟨(0, (start : Int)) :: r.1⟩, r.2) := by
  rw [locate?, if_neg ht, findWithin?_length, (Text.findFrom?_eq_none_iff hcursor).2 h, hlines]
  simp only [findWithin?_length]
  rfl

theorem beginning?_of_firstFrom (ht : t ≠ []) (h : t.FirstFrom source cursor start) :
    beginning? source t cursor = some (start : Int) := by
  rw [beginning?, locate?_of_firstFrom ht h]
  rfl

theorem placeBehind_of_firstFrom (ht : t ≠ []) (h : t.FirstFrom source cursor start) :
    placeBehind source t cursor = start + t.length := by
  rw [placeBehind, locate?_of_firstFrom ht h]
  rfl

/-- A text that stands in a place is located there just in case it stands nowhere before. -/
theorem beginning?_iff_firstFrom (ht : t ≠ []) (h : t.OccursAt source start)
    (hle : cursor ≤ start) :
    beginning? source t cursor = some (start : Int) ↔ t.FirstFrom source cursor start := by
  refine ⟨fun hbegins => ?_, beginning?_of_firstFrom ht⟩
  have hcursor : cursor ≤ source.length := hle.trans (by have := h.le_length; omega)
  obtain ⟨a, b, hdrop, -⟩ := Text.exists_of_occursAt_drop h hle
  obtain ⟨k, hk⟩ := Text.exists_firstFrom ht hcursor ⟨a, b, hdrop.symm⟩
  rw [beginning?_of_firstFrom ht hk] at hbegins
  rwa [Int.ofNat_inj.1 (Option.some.inj hbegins)] at hk

/-- A line that does not stand behind the cursor is not located, and the search stays where it is.
-/
theorem placeBehind_of_absent (ht : t ≠ []) (hcursor : cursor ≤ source.length) (hline : '\n' ∉ t)
    (h : ¬ t <:+: source.drop cursor) : placeBehind source t cursor = cursor := by
  rw [placeBehind, locate?_by_lines ht hcursor h (Text.splitAt_of_notMem hline),
    (Text.findFrom?_eq_none_iff hcursor).2 h]
  rfl

/-- A text that is located by its first line begins where that is found. -/
theorem findFrom?_of_beginning? (ht : t ≠ []) (hcursor : cursor ≤ source.length)
    (h : ¬ t <:+: source.drop cursor) (hlines : Text.splitAt '\n' t = line :: lines)
    (hbegins : beginning? source t cursor = some (start : Int)) :
    Text.findFrom? line cursor source = some start := by
  obtain ⟨r, hr, hhead⟩ := Option.bind_eq_some_iff.1 hbegins
  rw [locate?_by_lines ht hcursor h hlines] at hr
  obtain ⟨k, hk, hr⟩ := Option.bind_eq_some_iff.1 hr
  obtain ⟨_, -, hr⟩ := Option.bind_eq_some_iff.1 hr
  cases hr
  obtain ⟨_, ⟨⟩, hstart⟩ := Option.map_eq_some_iff.1 hhead
  rw [hk, Int.ofNat_inj.1 hstart]

/-- The first segment of a text that is located leads behind the cursor, into the source. -/
theorem exists_segments_of_locate? {limit : Nat} {m : OffsetMap}
    (h : locate? source limit t cursor = some (m, place)) :
    ∃ (start : Nat) (rest : List (Int × Int)), m.segments = (0, (start : Int)) :: rest ∧
      m.Ascending ∧ (∀ s ∈ rest, 0 < s.1) ∧ cursor ≤ start ∧ start ≤ source.length := by
  obtain ⟨-, ⟨start, rfl, -, hf⟩ | ⟨-, hlines⟩⟩ := cases_of_locate? h
  · have hle := le_of_findWithin? hf
    exact ⟨start, [], rfl, List.pairwise_singleton _ _, by simp, hle.1, by omega⟩
  · have hascending := hlines.ascending
    obtain ⟨line, lines, hline⟩ := List.exists_cons_of_ne_nil (Text.splitAt_ne_nil '\n' t)
    obtain ⟨segments⟩ := m
    rw [hline] at hlines
    cases hlines with
    | cons hle hstop _ hrest =>
        refine ⟨_, _, rfl, hascending, fun s hs => ?_, hle, by omega⟩
        have := hrest.le_of_mem s hs
        omega

/-- What is located begins behind the cursor. -/
theorem le_of_beginning? (h : beginning? source t cursor = some (start : Int)) :
    cursor ≤ start := by
  obtain ⟨r, hr, hhead⟩ := Option.bind_eq_some_iff.1 h
  obtain ⟨k, rest, hsegments, -, -, hle, -⟩ := exists_segments_of_locate? hr
  rw [hsegments] at hhead
  exact hle.trans_eq (Int.ofNat_inj.1 (Option.some.inj hhead))

/-- The first character of a text that is located stands where the text begins. -/
theorem offset_of_locate? {limit : Nat} {m : OffsetMap}
    (h : locate? source limit t cursor = some (m, place)) :
    ((m.span? 0 t.length).map fun s => ((LineIndex.ofText source).position s.1 s.2).start.offset) =
      m.segments.head?.map (·.2) := by
  obtain ⟨start, rest, hsegments, hascending, hbehind, -, hstart⟩ := exists_segments_of_locate? h
  have hfirst : m.resolve? 0 = some (start : Int) := by
    have hresolve :=
      OffsetMap.resolve?_of_split hascending (hsegments.trans (List.nil_append _).symm)
      (.inr rfl) hbehind
    simpa using hresolve
  have hne : m.segments ≠ [] := hsegments ▸ List.cons_ne_nil _ _
  obtain ⟨last, hlast⟩ := OffsetMap.exists_resolve? hne (t.length - 1)
  have hspan : m.span? 0 t.length = some ((start : Int), last + 1) := by
    rw [OffsetMap.span?, hfirst, hlast]
    simp [(cases_of_locate? h).1]
  have hclamp : (LineIndex.ofText source).clamp (start : Int) = start :=
    LineIndex.clamp_of_le hstart
  rw [hspan, hsegments]
  simp [LineIndex.position, LineIndex.point, hclamp]

/-! ## Lines -/

/-- A line that begins with neither a blank nor an angle bracket loses nothing but its indentation.
-/
theorem quotePrefix_append {indent y : Text} (hindent : ∀ c ∈ indent, isIndent c = true)
    (hy : ∀ c ∈ y.head?, isIndent c = false ∧ c ≠ '>') : quotePrefix (indent ++ y) = y := by
  have hdrop : y.dropWhile isIndent = y := Text.dropStart_eq_self fun c hc => (hy c hc).1
  have hquotes : dropQuotes y = y := by
    unfold dropQuotes
    split
    · exact absurd rfl (hy _ rfl).2
    · exact absurd rfl (hy _ rfl).2
    · rfl
  rw [quotePrefix, List.dropWhile_append_of_pos hindent, hdrop, hquotes, hdrop]

theorem nextLine?_eq {pre blank indent y : Text} (hblank : ∀ c ∈ blank, isIndent c = true)
    (hindent : ∀ c ∈ indent, isIndent c = true)
    (hy : ∀ c ∈ y.head?, isIndent c = false ∧ c ≠ '>') :
    nextLine? (pre ++ (blank ++ '\n' :: (indent ++ y))) pre.length =
      some (pre.length + blank.length + 1 + indent.length) := by
  have hbreak : (blank ++ '\n' :: (indent ++ y)).dropWhile isIndent = '\n' :: (indent ++ y) := by
    rw [List.dropWhile_append_of_pos hblank]
    rfl
  rw [nextLine?, List.drop_left, hbreak]
  simp only [quotePrefix_append hindent hy, List.length_append, List.length_cons, Option.some.injEq]
  omega

/-- A line that stands where the next one starts is found, and the search goes on behind it. -/
theorem locateLines?_cons {index place' : Nat} (hnext : nextLine? source place = some start)
    (hline : line.OccursAt source start)
    (hlines :
      locateLines? source source.length (index + line.length + 1) (start + line.length) lines =
        some (segments, place')) :
    locateLines? source source.length index place (line :: lines) =
      some (((index : Int), (start : Int)) :: segments, place') := by
  have hwithin : ¬ (source.length < start + line.length) := Nat.not_lt.2 hline.le_length
  have hthere : Text.startsWith line (source.drop start) = true := by
    obtain ⟨pre, post, rfl, rfl⟩ := hline
    rw [List.append_assoc, List.drop_left, Text.startsWith, Text.dropPrefix?_eq_some.2 rfl]
    rfl
  rw [locateLines?, hnext]
  simp [hwithin, hthere, hlines]

end Markdown
end LiquidMarkdown
