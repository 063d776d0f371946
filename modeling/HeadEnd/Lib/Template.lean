import HeadEnd.Lib.Text

/-! Templates. The search cuts a text into characters and holes, and filling a template
replaces all holes at once. The alternative is to go through the names and to replace each
one's placeholder wherever it stands in the text of that moment. The two agree as long as
no placeholder is found outside the holes. -/
namespace HeadEnd.Text

section Replace
variable {p v s t : List Char} {ch : Char}

theorem replaceAll_skip (k : Nat) (s : List Char) :
    replaceAll p v k s = replaceAll p v 0 (s.drop k) := by
  induction k generalizing s with
  | zero => rfl
  | succ k ih =>
    cases s with
    | nil => rfl
    | cons ch s => rw [replaceAll, ih, List.drop_succ_cons]

theorem replaceAll_append (hp : p ≠ []) (s : List Char) :
    replaceAll p v 0 (p ++ s) = v ++ replaceAll p v 0 s := by
  cases p with
  | nil => exact absurd rfl hp
  | cons first p =>
    have hfound : (first :: p).isPrefixOf (first :: (p ++ s)) = true :=
      List.isPrefixOf_iff_prefix.mpr (List.prefix_append (first :: p) s)
    rw [List.cons_append, replaceAll, if_pos hfound, replaceAll_skip]
    simp

theorem replaceAll_cons (h : ¬ p <+: ch :: s) :
    replaceAll p v 0 (ch :: s) = ch :: replaceAll p v 0 s := by
  rw [replaceAll, if_neg fun hfound => h (List.isPrefixOf_iff_prefix.mp hfound)]

/-- A text is read from one occurrence to the next. -/
theorem occurrence_induction (hp : p ≠ []) {motive : List Char → Prop} (nil : motive [])
    (found : ∀ s, motive s → motive (p ++ s))
    (other : ∀ ch s, ¬ p <+: ch :: s → motive s → motive (ch :: s)) (s : List Char) :
    motive s := by
  induction hn : s.length using Nat.strong_induction_on generalizing s with
  | _ n ih =>
    cases s with
    | nil => exact nil
    | cons ch s =>
      by_cases h : p <+: ch :: s
      · obtain ⟨rest, hrest⟩ := h
        have hlt : rest.length < n := by
          have hpos := List.length_pos_iff.mpr hp
          rw [← hn, ← hrest, List.length_append]
          omega
        rw [← hrest]
        exact found rest (ih rest.length hlt rest rfl)
      · exact other ch s h (ih s.length (by simp [← hn]) s rfl)

/-- Each of the `n` occurrences that are replaced changes the length by the same amount. -/
theorem exists_length_replaceAll (hp : p ≠ []) (s : List Char) :
    ∃ n, (n = 0 → ¬ p <:+: s) ∧
      ∀ v, (replaceAll p v 0 s).length + n * p.length = s.length + n * v.length := by
  induction s using occurrence_induction hp with
  | nil => exact ⟨0, fun _ => by simpa using hp, fun v => by simp [replaceAll]⟩
  | found s ih =>
    obtain ⟨n, -, hlength⟩ := ih
    refine ⟨n + 1, by simp, fun v => ?_⟩
    have h := hlength v
    rw [replaceAll_append hp, List.length_append, List.length_append, Nat.succ_mul, Nat.succ_mul]
    omega
  | other ch s hch ih =>
    obtain ⟨n, hfree, hlength⟩ := ih
    refine ⟨n, fun hn hin => ?_, fun v => ?_⟩
    · cases List.infix_cons_iff.mp hin with
      | inl hpre => exact hch hpre
      | inr hrest => exact hfree hn hrest
    · have h := hlength v
      rw [replaceAll_cons hch, List.length_cons, List.length_cons]
      omega

theorem length_replaceAll (hp : p ≠ []) (h : v.length = p.length) (s : List Char) :
    (replaceAll p v 0 s).length = s.length := by
  obtain ⟨n, -, hlength⟩ := exists_length_replaceAll hp s
  have hs := hlength v
  rw [h] at hs
  omega

theorem replaceAll_of_not_infix (h : ¬ p <:+: s) : replaceAll p v 0 s = s := by
  induction s with
  | nil => rfl
  | cons ch s ih =>
    have hfree := not_or.mp fun hin => h (List.infix_cons_iff.mpr hin)
    rw [replaceAll_cons hfree.1, ih hfree.2]

theorem replaceAll_self (hp : p ≠ []) (s : List Char) : replaceAll p p 0 s = s := by
  induction s using occurrence_induction hp with
  | nil => rfl
  | found s ih => rw [replaceAll_append hp, ih]
  | other ch s hch ih => rw [replaceAll_cons hch, ih]

theorem not_infix_of_replaceAll_eq (hp : p ≠ []) (hv : v ≠ p) (h : replaceAll p v 0 s = s) :
    ¬ p <:+: s := by
  induction s using occurrence_induction hp with
  | nil => simpa using hp
  | found s ih =>
    -- were the lengths the same, the first occurrence would show the difference
    obtain ⟨n, hfree, hlength⟩ := exists_length_replaceAll hp (p ++ s)
    have hlen := hlength v
    rw [h] at hlen
    cases mul_eq_mul_left_iff.mp (Nat.add_left_cancel hlen) with
    | inl hsame =>
      rw [replaceAll_append hp] at h
      exact absurd (List.append_inj_left h hsame.symm) hv
    | inr hzero => exact hfree hzero
  | other ch s hch ih =>
    rw [replaceAll_cons hch] at h
    intro hin
    cases List.infix_cons_iff.mp hin with
    | inl hpre => exact hch hpre
    | inr hrest => exact ih (List.cons.inj h).2 hrest

/-- Two occurrences of the pattern never overlap. -/
def Unbordered (p : List Char) : Prop := ∀ q, q <+: p → q <:+ p → q = [] ∨ q = p

theorem Unbordered.not_prefix_append (hu : Unbordered p) (hs : s ≠ []) (h : ¬ p <+: s) :
    ¬ p <+: s ++ (p ++ t) := by
  intro hpre
  cases List.prefix_or_prefix_of_prefix hpre (List.prefix_append s (p ++ t)) with
  | inl hps => exact h hps
  | inr hsp =>
    obtain ⟨q, hq⟩ := hsp
    have hqt : q <+: p ++ t := by
      have hboth : s ++ q <+: s ++ (p ++ t) := hq ▸ hpre
      exact (List.prefix_append_right_inj s).mp hboth
    have hqp : q <+: p := by
      refine List.prefix_of_prefix_length_le hqt (List.prefix_append p t) ?_
      rw [← hq, List.length_append]
      omega
    cases hu q hqp ⟨s, hq⟩ with
    | inl hnil =>
      rw [hnil, List.append_nil] at hq
      exact h (hq ▸ List.prefix_rfl)
    | inr heq =>
      rw [heq] at hq
      exact hs (by simpa using hq)

/-- An occurrence is found whatever stands before it. -/
theorem Unbordered.replaceAll_append_append (hu : Unbordered p) (hp : p ≠ [])
    (s t : List Char) :
    replaceAll p v 0 (s ++ (p ++ t)) = replaceAll p v 0 s ++ (v ++ replaceAll p v 0 t) := by
  induction s using occurrence_induction hp with
  | nil => exact replaceAll_append hp t
  | found s ih => rw [List.append_assoc, replaceAll_append hp, replaceAll_append hp, ih,
      List.append_assoc]
  | other ch s hch ih =>
    have hcons : ¬ p <+: ch :: (s ++ (p ++ t)) := hu.not_prefix_append (by simp) hch
    rw [List.cons_append, replaceAll_cons hcons, ih, replaceAll_cons hch, List.cons_append]

theorem Unbordered.replaceAll_intercalate_cons (hu : Unbordered p) (hp : p ≠ [])
    (x y : List Char) (texts : List (List Char)) :
    replaceAll p v 0 (p.intercalate (x :: y :: texts)) =
      replaceAll p v 0 x ++ (v ++ replaceAll p v 0 (p.intercalate (y :: texts))) := by
  rw [List.intercalate_cons_cons, List.append_assoc, hu.replaceAll_append_append hp]

theorem Unbordered.exists_length_intercalate (hu : Unbordered p) (hp : p ≠ [])
    (texts : List (List Char)) :
    ∃ n, (n = 0 → ∀ x ∈ texts, ¬ p <:+: x) ∧
      ∀ v, (replaceAll p v 0 (p.intercalate texts)).length + n * p.length =
        (v.intercalate texts).length + n * v.length := by
  induction texts with
  | nil => exact ⟨0, by simp, fun v => by simp [replaceAll]⟩
  | cons x texts ih =>
    obtain ⟨m, hx, hlengthx⟩ := exists_length_replaceAll hp x
    cases texts with
    | nil =>
      refine ⟨m, fun hm => by simpa using hx hm, fun v => ?_⟩
      rw [List.intercalate_singleton, List.intercalate_singleton]
      exact hlengthx v
    | cons y texts =>
      obtain ⟨n, htexts, hlength⟩ := ih
      refine ⟨m + n, fun hzero => ?_, fun v => ?_⟩
      · rw [List.forall_mem_cons]
        exact ⟨hx (by omega), htexts (by omega)⟩
      · have h := hlength v
        have hxv := hlengthx v
        rw [hu.replaceAll_intercalate_cons hp, List.intercalate_cons_cons]
        simp only [List.length_append, Nat.add_mul]
        omega

/-- If the lengths are the same, every text stays where it was, so that they can be compared
one by one. -/
theorem Unbordered.not_infix_of_length_eq (hu : Unbordered p) (hp : p ≠ []) (hv : v ≠ p)
    (hlen : v.length = p.length) {texts : List (List Char)}
    (h : replaceAll p v 0 (p.intercalate texts) = v.intercalate texts) :
    ∀ x ∈ texts, ¬ p <:+: x := by
  induction texts with
  | nil => simp
  | cons x texts ih =>
    cases texts with
    | nil =>
      rw [List.intercalate_singleton, List.intercalate_singleton] at h
      simpa using not_infix_of_replaceAll_eq hp hv h
    | cons y texts =>
      rw [hu.replaceAll_intercalate_cons hp, List.intercalate_cons_cons, List.append_assoc] at h
      obtain ⟨hx, hrest⟩ := List.append_inj h (length_replaceAll hp hlen x)
      rw [List.forall_mem_cons]
      exact ⟨not_infix_of_replaceAll_eq hp hv hx, ih (List.append_cancel_left hrest)⟩

theorem Unbordered.replaceAll_intercalate (hu : Unbordered p) (hp : p ≠ [])
    {texts : List (List Char)} (hfree : ∀ x ∈ texts, ¬ p <:+: x) :
    replaceAll p v 0 (p.intercalate texts) = v.intercalate texts := by
  induction texts with
  | nil => rfl
  | cons x texts ih =>
    rw [List.forall_mem_cons] at hfree
    cases texts with
    | nil =>
      rw [List.intercalate_singleton, List.intercalate_singleton]
      exact replaceAll_of_not_infix hfree.1
    | cons y texts =>
      rw [hu.replaceAll_intercalate_cons hp, ih hfree.2, replaceAll_of_not_infix hfree.1,
        List.intercalate_cons_cons, List.append_assoc]

/-- A replacement meets exactly the occurrences between these texts, if and only if there is
none inside them. -/
theorem Unbordered.replaceAll_intercalate_iff (hu : Unbordered p) (hp : p ≠ [])
    (texts : List (List Char)) :
    replaceAll p v 0 (p.intercalate texts) = v.intercalate texts ↔
      v = p ∨ ∀ x ∈ texts, ¬ p <:+: x := by
  constructor
  · intro h
    by_cases hv : v = p
    · exact .inl hv
    · obtain ⟨n, hfree, hlength⟩ := hu.exists_length_intercalate hp texts
      have hboth := hlength v
      rw [h] at hboth
      cases mul_eq_mul_left_iff.mp (Nat.add_left_cancel hboth) with
      | inl hsame => exact .inr (hu.not_infix_of_length_eq hp hv hsame.symm h)
      | inr hzero => exact .inr (hfree hzero)
  · intro h
    cases h with
    | inl hv => rw [hv, replaceAll_self hp]
    | inr hfree => exact hu.replaceAll_intercalate hp hfree

end Replace

theorem placeholder_ne_nil (name : List Char) : placeholder name ≠ [] := List.cons_ne_nil _ _

theorem unbordered_placeholder {name : List Char} (h : '}' ∉ name) :
    Unbordered (placeholder name) := by
  intro q hpre hsuf
  have hend : placeholder name = ('$' :: '{' :: name) ++ ['}'] := rfl
  rw [hend] at hpre hsuf ⊢
  cases List.prefix_concat_iff.mp hpre with
  | inl heq => exact .inr heq
  | inr hshort =>
    cases List.suffix_concat_iff.mp hsuf with
    | inl hnil => exact .inl hnil
    | inr hlast =>
      obtain ⟨front, hq, -⟩ := hlast
      have hmem : '}' ∈ '$' :: '{' :: name := hshort.subset (by simp [hq])
      simp [h] at hmem

/-- A part of a template. -/
inductive Piece where
  | char (ch : Char)
  | hole (name : List Char)
  deriving DecidableEq

def Piece.name? : Piece → Option (List Char)
  | .char _ => none
  | .hole name => some name

/-- The template a text is, from where the search stands. -/
def pieces : Scan → List Char → List Piece
  | q, [] => q.pending.map .char
  | .text, ch :: rest =>
    if ch = '$' then pieces .dollar rest else .char ch :: pieces .text rest
  | .dollar, ch :: rest =>
    if ch = '{' then pieces .opened rest
    else .char '$' ::
      if ch = '$' then pieces .dollar rest else .char ch :: pieces .text rest
  | .opened, ch :: rest =>
    if ch = '}' then .char '$' :: .char '{' :: .char '}' :: pieces .text rest
    else pieces (.inside [ch]) rest
  | .inside name, ch :: rest =>
    if ch = '}' then .hole name :: pieces .text rest else pieces (.inside (name ++ [ch])) rest

/-- A hole without a value stays as it was written. -/
def Piece.fill (values : List Char → Option (List Char)) : Piece → List Char
  | .char ch => [ch]
  | .hole name => (values name).getD (placeholder name)

def fill (values : List Char → Option (List Char)) (ps : List Piece) : List Char :=
  ps.flatMap (·.fill values)

/-- The values of these names only. -/
def only (names : List (List Char)) (values : List Char → Option (List Char))
    (name : List Char) : Option (List Char) :=
  if name ∈ names then values name else none

/-- The template is cut at its open holes of this name, the `names` before it being filled. -/
def stretches (names : List (List Char)) (name : List Char) (ps : List Piece) :
    List (List Piece) :=
  if name ∈ names then [ps] else ps.splitOn (.hole name)

section Fill
variable {name v : List Char} {names : List (List Char)} {ps : List Piece}
  {values values' : List Char → Option (List Char)}

/-- The holes are the matches of the search. -/
theorem filterMap_pieces (q : Scan) (s : List Char) :
    (pieces q s).filterMap Piece.name? = captures q s := by
  induction s generalizing q with
  | nil =>
    rw [pieces, captures, List.filterMap_map]
    exact List.filterMap_eq_nil_iff.mpr fun ch _ => rfl
  | cons ch rest ih =>
    cases q with
    | text =>
      rw [pieces, captures]
      split
      · exact ih .dollar
      · exact ih .text
    | dollar =>
      rw [pieces, captures]
      split
      · exact ih .opened
      · split
        · exact ih .dollar
        · exact ih .text
    | opened =>
      rw [pieces, captures]
      split
      · exact ih .text
      · exact ih _
    | inside name =>
      rw [pieces, captures]
      split
      · rw [List.filterMap_cons_some (by rfl), ih]
      · exact ih _

theorem hole_mem_pieces_iff {q : Scan} {s : List Char} :
    .hole name ∈ pieces q s ↔ name ∈ captures q s := by
  rw [← filterMap_pieces, List.mem_filterMap]
  constructor
  · exact fun h => ⟨.hole name, h, rfl⟩
  · intro h
    obtain ⟨piece, hmem, hname⟩ := h
    cases piece with
    | char ch => cases hname
    | hole other =>
      cases hname
      exact hmem

theorem fill_cons (piece : Piece) (ps : List Piece) :
    fill values (piece :: ps) = piece.fill values ++ fill values ps := List.flatMap_cons

/-- Nothing of the text is lost. -/
theorem fill_none_pieces (q : Scan) (s : List Char) :
    fill (fun _ => none) (pieces q s) = q.pending ++ s := by
  induction s generalizing q with
  | nil => simp [pieces, fill, List.flatMap_map, Piece.fill]
  | cons ch rest ih =>
    cases q with
    | text =>
      rw [pieces]
      split
      next h => rw [ih, h]; rfl
      next h => rw [fill_cons, ih]; rfl
    | dollar =>
      rw [pieces]
      split
      next h => rw [ih, h]; rfl
      next h =>
        rw [fill_cons]
        split
        next h => rw [ih, h]; rfl
        next h => rw [fill_cons, ih]; rfl
    | opened =>
      rw [pieces]
      split
      next h => rw [fill_cons, fill_cons, fill_cons, ih, h]; rfl
      next h => rw [ih]; rfl
    | inside name =>
      rw [pieces]
      split
      next h =>
        rw [fill_cons, ih, h]
        simp [Piece.fill, placeholder, Scan.pending]
      next h =>
        rw [ih]
        simp [Scan.pending]

theorem closed_notMem_of_mem_captures (q : Scan) (hq : q.Proper) {s : List Char}
    (h : name ∈ captures q s) : '}' ∉ name := by
  induction s generalizing q with
  | nil => simp [captures] at h
  | cons ch rest ih =>
    cases q with
    | text =>
      rw [captures] at h
      split at h
      · exact ih .dollar trivial h
      · exact ih .text trivial h
    | dollar =>
      rw [captures] at h
      split at h
      · exact ih .opened trivial h
      · split at h
        · exact ih .dollar trivial h
        · exact ih .text trivial h
    | opened =>
      rw [captures] at h
      split at h
      · exact ih .text trivial h
      next hch => exact ih (.inside [ch]) ⟨by simp, by simpa using Ne.symm hch⟩ h
    | inside first =>
      rw [captures] at h
      split at h
      · cases List.mem_cons.mp h with
        | inl hname => exact hname ▸ hq.2
        | inr hrest => exact ih .text trivial hrest
      next hch =>
        exact ih (.inside (first ++ [ch])) ⟨by simp, by simpa using ⟨hq.2, Ne.symm hch⟩⟩ h

theorem fill_congr (h : ∀ name, .hole name ∈ ps → values name = values' name) :
    fill values ps = fill values' ps := by
  refine List.flatMap_congr fun piece hmem => ?_
  cases piece with
  | char ch => rfl
  | hole name => rw [Piece.fill, Piece.fill, h name hmem]

theorem flatMap_intercalate {α β : Type} (f : α → List β) (a : α) (xs : List (List α)) :
    ([a].intercalate xs).flatMap f = (f a).intercalate (xs.map (·.flatMap f)) := by
  induction xs with
  | nil => rfl
  | cons x xs ih =>
    cases xs with
    | nil => simp
    | cons y xs =>
      rw [List.intercalate_cons_cons, List.flatMap_append, List.flatMap_append, ih]
      simp [List.intercalate_cons_cons]

theorem notMem_of_mem_splitOn {α : Type} [DecidableEq α] {a : α} {xs x : List α}
    (h : x ∈ xs.splitOn a) : a ∉ x := by
  induction hn : xs.length using Nat.strong_induction_on generalizing xs with
  | _ n ih =>
    by_cases ha : a ∈ xs
    · obtain ⟨front, back, hxs, hfront⟩ := List.eq_append_cons_of_mem ha
      rw [hxs, List.splitOn_append_cons_self_of_not_mem hfront] at h
      cases List.mem_cons.mp h with
      | inl hx => exact hx ▸ hfront
      | inr hback =>
        have hlt : back.length < n := by
          rw [← hn, hxs, List.length_append, List.length_cons]
          omega
        exact ih back.length hlt hback rfl
    · rw [List.splitOn_eq_singleton ha] at h
      exact List.mem_singleton.mp h ▸ ha

theorem fill_eq_intercalate (name : List Char) (ps : List Piece) :
    fill values ps =
      ((Piece.hole name).fill values).intercalate
        ((ps.splitOn (.hole name)).map (fill values)) := by
  have h := flatMap_intercalate (fun piece : Piece => piece.fill values) (.hole name)
    (ps.splitOn (.hole name))
  rw [List.intercalate_splitOn] at h
  exact h

theorem only_append_of_mem (h : name ∈ names) :
    only (names ++ [name]) values = only names values := by
  funext other
  have hnames : other ∈ names ++ [name] ↔ other ∈ names := by
    rw [List.mem_append, List.mem_singleton, or_iff_left_iff_imp]
    exact fun heq => heq ▸ h
  rw [only, only, if_congr hnames rfl rfl]

theorem only_append_of_ne {other : List Char} (h : other ≠ name) :
    only (names ++ [name]) values other = only names values other := by
  have hnames : other ∈ names ++ [name] ↔ other ∈ names := by
    rw [List.mem_append, List.mem_singleton, or_iff_left h]
  rw [only, only, if_congr hnames rfl rfl]

/-- Before the turn of a name its placeholder stands between the stretches. -/
theorem fill_only (names : List (List Char)) (name : List Char) (ps : List Piece) :
    fill (only names values) ps =
      (placeholder name).intercalate
        ((stretches names name ps).map (fill (only names values))) := by
  by_cases h : name ∈ names
  · rw [stretches, if_pos h, List.map_singleton, List.intercalate_singleton]
  · have hopen : (Piece.hole name).fill (only names values) = placeholder name := by
      rw [Piece.fill, only, if_neg h, Option.getD_none]
    rw [stretches, if_neg h, ← hopen]
    exact fill_eq_intercalate name ps

/-- After its turn it is the value that stands there, and nothing else has changed. -/
theorem fill_only_append (hv : values name = some v) (ps : List Piece) :
    fill (only (names ++ [name]) values) ps =
      v.intercalate ((stretches names name ps).map (fill (only names values))) := by
  by_cases h : name ∈ names
  · rw [stretches, if_pos h, List.map_singleton, List.intercalate_singleton,
      only_append_of_mem h]
  · have hfilled : (Piece.hole name).fill (only (names ++ [name]) values) = v := by
      rw [Piece.fill, only, if_pos (by simp), hv, Option.getD_some]
    have hsame : (ps.splitOn (.hole name)).map (fill (only (names ++ [name]) values)) =
        (ps.splitOn (.hole name)).map (fill (only names values)) := by
      refine List.map_congr_left fun qs hqs => fill_congr fun other hother => ?_
      refine only_append_of_ne fun heq => notMem_of_mem_splitOn hqs ?_
      exact heq ▸ hother
    rw [stretches, if_neg h, ← hsame, fill_eq_intercalate name ps, hfilled]

/-- The turn of a name fills its holes and nothing else, exactly if its placeholder does not
stand in the stretches between them. -/
theorem replaceAll_fill_iff (hname : '}' ∉ name) (hv : values name = some v)
    (names : List (List Char)) (ps : List Piece) :
    replaceAll (placeholder name) v 0 (fill (only names values) ps) =
        fill (only (names ++ [name]) values) ps ↔
      v = placeholder name ∨
        ∀ qs ∈ stretches names name ps, ¬ placeholder name <:+: fill (only names values) qs := by
  have hu := unbordered_placeholder hname
  rw [fill_only_append hv, fill_only names name ps,
    hu.replaceAll_intercalate_iff (placeholder_ne_nil name), List.forall_mem_map]

end Fill

end HeadEnd.Text
