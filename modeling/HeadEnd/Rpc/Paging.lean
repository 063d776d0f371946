import HeadEnd.Postgres
import HeadEnd.Rpc.Handler

/-! Going through a list page by page. A page has at most 200 rows, whatever the limit that was
asked for, and on Postgres each page is a query of its own. -/
namespace HeadEnd

/-- Pages of one length, one after the other. -/
theorem flatMap_pages {α : Type*} (xs : List α) (length count : Nat) :
    ((List.range count).flatMap fun i => (xs.drop (i * length)).take length) =
      xs.take (count * length) := by
  induction count with
  | zero => simp
  | succ count ih =>
    rw [List.range_succ, List.flatMap_append, ih, Nat.succ_mul, List.take_add]
    simp

/-- Two elements that may stand in either order, with everything else in order around them. -/
theorem exists_tied_orders {α : Type*} {before : α → α → Bool}
    (htrans : ∀ a b c, before a b → before b c → before a c)
    (htotal : ∀ a b, before a b || before b a) {a b : α} (hab : before a b) (hba : before b a)
    (rest : List α) : ∃ front back, (front ++ back).Perm rest ∧
      (front ++ a :: b :: back).Pairwise (before · ·) ∧
      (front ++ b :: a :: back).Pairwise (before · ·) := by
  have hsorted := List.pairwise_mergeSort htrans htotal rest
  have hsplit := @List.takeWhile_append_dropWhile _ (fun c => !before a c) (rest.mergeSort before)
  rw [← hsplit] at hsorted
  obtain ⟨hfront, hback, hcross⟩ := List.pairwise_append.mp hsorted
  refine ⟨_, _, hsplit ▸ List.mergeSort_perm rest before, ?_⟩
  have hbefore : ∀ x ∈ (rest.mergeSort before).takeWhile (fun c => !before a c), before x a := by
    intro x hx
    have hnot := List.mem_takeWhile_imp hx
    have hor := htotal a x
    simp only [Bool.not_eq_true'] at hnot
    rwa [hnot, Bool.false_or] at hor
  have hbehind : ∀ y ∈ (rest.mergeSort before).dropWhile (fun c => !before a c), before a y := by
    have hhead := List.head?_dropWhile_not (fun c => !before a c) (rest.mergeSort before)
    cases hlist : (rest.mergeSort before).dropWhile (fun c => !before a c) with
    | nil => exact fun y hy => by cases hy
    | cons first others =>
      rw [hlist] at hhead hback
      have hfirst : before a first := by simpa using hhead
      intro y hy
      cases List.mem_cons.mp hy with
      | inl heq => exact heq ▸ hfirst
      | inr hmem => exact htrans _ _ _ hfirst ((List.pairwise_cons.mp hback).1 y hmem)
  -- both orders are of this kind
  have horder : ∀ c d, before c d → before c a → before a c → before d a → before a d →
      ((rest.mergeSort before).takeWhile (fun c => !before a c) ++
        c :: d :: (rest.mergeSort before).dropWhile (fun c => !before a c)).Pairwise
          (before · ·) := by
    intro c d hcd hca hac hda had
    refine List.pairwise_append.mpr ⟨hfront, List.pairwise_cons.mpr ⟨?_, List.pairwise_cons.mpr
      ⟨fun y hy => htrans _ _ _ hda (hbehind y hy), hback⟩⟩, ?_⟩
    · intro y hy
      cases List.mem_cons.mp hy with
      | inl heq => exact heq ▸ hcd
      | inr hmem => exact htrans _ _ _ hca (hbehind y hmem)
    · intro x hx y hy
      cases List.mem_cons.mp hy with
      | inl heq => exact heq ▸ htrans _ _ _ (hbefore x hx) hac
      | inr hmem =>
        cases List.mem_cons.mp hmem with
        | inl heq => exact heq ▸ htrans _ _ _ (hbefore x hx) had
        | inr hback => exact hcross x hx y hback
  have haa : before a a := by simpa using htotal a a
  exact ⟨horder a b hab haa haa hba hab, horder b a hba hba hab haa haa⟩

namespace Rpc
open InnerDB

/-- What asks for the page number `i` of pages with `limit` rows. -/
def pageParams (limit i : Nat) : Json :=
  .obj [("limit", .int limit), ("offset", .int (i * limit : Nat))]

section
variable {limit i : Nat}

/-- An offset of more than 63 bits counts as none. -/
theorem ofParams_pageParams (hlimit : 1 ≤ limit) (h : limit < 2 ^ 63) :
    Page.ofParams (pageParams limit i) =
      ⟨(min limit 200 : Nat), (if i * limit < 2 ^ 63 then i * limit else 0 : Nat), none⟩ := by
  have hl : i64Param (pageParams limit i) "limit" = some (limit : Int) := by
    rw [i64Param, show (pageParams limit i).get "limit" = some (.int limit) from rfl,
      Option.bind_some, Json.asI64_of_range (by omega)]
  have ho : (i64Param (pageParams limit i) "offset").getD 0 =
      (if i * limit < 2 ^ 63 then i * limit else 0 : Nat) := by
    rw [i64Param, show (pageParams limit i).get "offset" = some (.int (i * limit : Nat)) from rfl,
      Option.bind_some]
    split_ifs with hi
    · rw [Json.asI64_of_range (by omega), Option.getD_some]
    · rw [Json.asI64, if_neg fun hrange => hi (by exact_mod_cast hrange.2)]
      rfl
  have hd : strParam (pageParams limit i) "device_id" = none := rfl
  rw [Page.ofParams, hl, ho, hd, Option.getD_some, Option.bind_none, Page.mk.injEq]
  exact ⟨by omega, by omega, rfl⟩

section
variable {rows : List ScheduledConnection} {shown : ScheduledConnection → Bool}
  {before : ScheduledConnection → ScheduledConnection → Bool}

/-- The page number `i`. -/
def page (rows : List ScheduledConnection) (shown : ScheduledConnection → Bool)
    (before : ScheduledConnection → ScheduledConnection → Bool) (limit i : Nat) :
    List ScheduledConnection :=
  InnerDB.connectionPage rows shown before (.ofParams (pageParams limit i))

theorem page_eq (hlimit : 1 ≤ limit) (h : limit < 2 ^ 63) :
    page rows shown before limit i = (((rows.filter shown).mergeSort before).drop
      (if i * limit < 2 ^ 63 then i * limit else 0)).take (min limit 200) := by
  rw [page, ofParams_pageParams hlimit h, InnerDB.connectionPage]
  simp only [Option.all_none, Int.toNat_natCast, List.filter_true]

/-- Rows come in any order that is total and transitive. With a limit of at most 200 the pages
one after the other are the rows that are shown, in order, each as often as it is there. With a
greater limit some row is on no page at all, if there are more than 200. -/
theorem connection_pages (htrans : ∀ a b c, before a b → before b c → before a c)
    (htotal : ∀ a b, before a b || before b a) (hlimit : 1 ≤ limit) (h : limit < 2 ^ 63)
    (hrows : rows.Nodup) :
    (limit ≤ 200 → ∀ count, (rows.filter shown).length ≤ count * limit → count * limit < 2 ^ 63 →
      ((List.range count).flatMap (page rows shown before limit)).Perm (rows.filter shown) ∧
      ((List.range count).flatMap (page rows shown before limit)).Pairwise (before · ·)) ∧
    (200 < limit → 200 < (rows.filter shown).length →
      ∃ c ∈ rows.filter shown, ∀ i, c ∉ page rows shown before limit i) := by
  have hperm : ((rows.filter shown).mergeSort before).Perm (rows.filter shown) :=
    List.mergeSort_perm _ _
  refine ⟨fun hle count hcount hsmall => ?_, fun hgt hlong => ?_⟩
  · have hpages : (List.range count).flatMap (page rows shown before limit) =
        (rows.filter shown).mergeSort before := by
      have heq : (List.range count).flatMap (page rows shown before limit) =
          (List.range count).flatMap fun i =>
            (((rows.filter shown).mergeSort before).drop (i * limit)).take limit := by
        refine List.flatMap_congr fun i hi => ?_
        have hlt : i * limit < 2 ^ 63 :=
          lt_of_le_of_lt (Nat.mul_le_mul_right _ (List.mem_range.mp hi).le) hsmall
        rw [page_eq hlimit h, if_pos hlt, min_eq_left hle]
      rw [heq, flatMap_pages, List.take_of_length_le]
      rw [hperm.length_eq]
      exact hcount
    rw [hpages]
    exact ⟨hperm, List.pairwise_mergeSort htrans htotal _⟩
  · -- the row behind the first page: the second page starts later
    have hlen : 200 < ((rows.filter shown).mergeSort before).length := by rwa [hperm.length_eq]
    have hnodup : ((rows.filter shown).mergeSort before).Nodup :=
      hperm.nodup_iff.mpr (hrows.filter _)
    refine ⟨((rows.filter shown).mergeSort before)[200], hperm.mem_iff.mp (List.getElem_mem _),
      fun i hmem => ?_⟩
    rw [page_eq hlimit h, min_eq_right hgt.le] at hmem
    obtain ⟨k, hk, heq⟩ := List.mem_iff_getElem.mp hmem
    rw [List.getElem_take, List.getElem_drop] at heq
    have hpos := (List.Nodup.getElem_inj_iff hnodup).mp heq
    rw [List.length_take] at hk
    split_ifs at hpos with hsmall
    · cases i with
      | zero => omega
      | succ i =>
        have hstart : limit ≤ (i + 1) * limit := Nat.le_mul_of_pos_left _ (Nat.succ_pos i)
        omega
    · omega

theorem earlier_trans (a b c : ScheduledConnection) (hab : earlier a b) (hbc : earlier b c) :
    earlier a c := by
  simp only [earlier, decide_eq_true_eq] at hab hbc ⊢
  exact hab.trans hbc

theorem earlier_total (a b : ScheduledConnection) : earlier a b || earlier b a := by
  simp only [earlier, Bool.or_eq_true, decide_eq_true_eq]
  exact le_total _ _

theorem earlier_and_earlier {a b : ScheduledConnection} :
    earlier a b ∧ earlier b a ↔ a.scheduleTime = b.scheduleTime := by
  simp only [earlier, decide_eq_true_eq]
  exact le_antisymm_iff.symm

/- Connections of as many meters, one a nanosecond. -/
def meterRows (count : Nat) : List ScheduledConnection :=
  (List.range count).map fun n : Nat => InnerDB.awaitingConnection n n n

theorem connection_pages_meters :
    ((List.range 2).flatMap (page (meterRows 201) awaited earlier 200)).Pairwise (earlier · ·) ∧
      ∃ c ∈ meterRows 201, ∀ i, c ∉ page (meterRows 201) awaited earlier 250 i := by
  have hnodup : (meterRows 201).Nodup := by
    refine List.nodup_range.map fun m n hmn => ?_
    exact Int.ofNat.inj (congrArg ScheduledConnection.scheduleTime hmn)
  have hall : (meterRows 201).filter awaited = meterRows 201 := by
    refine List.filter_eq_self.mpr fun c hc => ?_
    obtain ⟨n, -, rfl⟩ := List.mem_map.mp hc
    rfl
  have hlen : ((meterRows 201).filter awaited).length = 201 := by
    rw [hall, meterRows, List.length_map, List.length_range]
  refine ⟨((connection_pages earlier_trans earlier_total (by decide) (by decide) hnodup).1 le_rfl 2
    (by omega) (by decide)).2, ?_⟩
  have hlost := (@connection_pages 250 (meterRows 201) awaited earlier earlier_trans earlier_total
    (by decide) (by decide) hnodup).2 (by decide) (by omega)
  rwa [hall] at hlost

end

end

end Rpc

namespace PostgresDB
open InnerDB Rpc

def rowsOf (db : PostgresDB) (shown : ScheduledConnection → Bool) : Multiset ScheduledConnection :=
  db.scheduledConnections.filter fun c => shown c

/-- What a query for a page may give. Rows with one time come in any order, and perhaps in
another one in the next query. -/
def ConnectionPage (db : PostgresDB) (shown : ScheduledConnection → Bool)
    (before : ScheduledConnection → ScheduledConnection → Bool) (page : Page)
    (result : List ScheduledConnection) : Prop :=
  ∃ items : List ScheduledConnection,
    (items : Multiset ScheduledConnection) =
      (db.rowsOf shown).filter (fun c => page.deviceId.all fun id => c.fkDevice = id) ∧
    items.Pairwise (before · ·) ∧ result = (items.drop page.offset.toNat).take page.limit.toNat

def GetUpcomingConnections (db : PostgresDB) (page : Page) (result : List ScheduledConnection) :
    Prop :=
  db.ConnectionPage awaited earlier page result

def GetConnectionHistory (db : PostgresDB) (page : Page) (result : List ScheduledConnection) :
    Prop :=
  db.ConnectionPage past (fun a b => earlier b a) page result

/-- Whatever the queries give, the pages one after the other have every one of the rows, each
as often as it is there. -/
def PagesReliable (query : Page → List ScheduledConnection → Prop)
    (rows : Multiset ScheduledConnection) : Prop :=
  ∀ limit count (result : Nat → List ScheduledConnection), 1 ≤ limit → limit ≤ 200 →
    rows.card ≤ count * limit → count * limit < 2 ^ 63 →
    (∀ i < count, query (.ofParams (pageParams limit i)) (result i)) →
    ((List.range count).flatMap result : Multiset ScheduledConnection) = rows

section
variable {db : PostgresDB} {shown : ScheduledConnection → Bool}
  {before : ScheduledConnection → ScheduledConnection → Bool}

theorem connectionPage_iff {limit i : Nat} {result : List ScheduledConnection}
    (hlimit : 1 ≤ limit) (hle : limit ≤ 200) (hi : i * limit < 2 ^ 63) :
    db.ConnectionPage shown before (.ofParams (pageParams limit i)) result ↔
      ∃ items : List ScheduledConnection,
        (items : Multiset ScheduledConnection) = db.rowsOf shown ∧
        items.Pairwise (before · ·) ∧ result = (items.drop (i * limit)).take limit := by
  rw [ConnectionPage, ofParams_pageParams hlimit (by omega), if_pos hi, min_eq_left hle]
  simp only [Option.all_none, Int.toNat_natCast, Multiset.filter_true]

/-- If no two rows that differ have one time, there is only one order. -/
theorem pages_complete (htrans : ∀ a b c, before a b → before b c → before a c)
    (htotal : ∀ a b, before a b || before b a)
    (hunique : ∀ a ∈ db.rowsOf shown, ∀ b ∈ db.rowsOf shown, before a b → before b a → a = b)
    {limit count : Nat} {result : Nat → List ScheduledConnection} (hlimit : 1 ≤ limit)
    (hle : limit ≤ 200) (hcount : (db.rowsOf shown).card ≤ count * limit)
    (hsmall : count * limit < 2 ^ 63)
    (h : ∀ i < count, db.ConnectionPage shown before (.ofParams (pageParams limit i)) (result i)) :
    ((List.range count).flatMap result : Multiset ScheduledConnection) = db.rowsOf shown := by
  have hcoe : (((db.rowsOf shown).toList.mergeSort before : List ScheduledConnection) :
      Multiset ScheduledConnection) = db.rowsOf shown := by
    rw [Multiset.coe_eq_coe.mpr (List.mergeSort_perm _ before), Multiset.coe_toList]
  have hsorted := List.pairwise_mergeSort htrans htotal (db.rowsOf shown).toList
  generalize (db.rowsOf shown).toList.mergeSort before = all at hcoe hsorted
  have hresult : ∀ i ∈ List.range count, result i = (all.drop (i * limit)).take limit := by
    intro i hi
    have hlt : i * limit < 2 ^ 63 :=
      lt_of_le_of_lt (Nat.mul_le_mul_right _ (List.mem_range.mp hi).le) hsmall
    obtain ⟨items, hitems, horder, heq⟩ :=
      (connectionPage_iff hlimit hle hlt).mp (h i (List.mem_range.mp hi))
    -- the query has put the same rows in order, which can be done in one way only
    have hperm : items.Perm all := Multiset.coe_eq_coe.mp (hitems.trans hcoe.symm)
    have hsame : items = all := by
      refine hperm.eq_of_pairwise (fun a b ha hb => hunique a ?_ b ?_) horder hsorted
      · rw [← hitems]
        exact ha
      · rw [← hcoe]
        exact hb
    rw [heq, hsame]
  have hlength : all.length ≤ count * limit := by
    rw [← hcoe, Multiset.coe_card] at hcount
    exact hcount
  rw [List.flatMap_congr hresult, flatMap_pages, List.take_of_length_le hlength, hcoe]

/-- Two rows that differ but have one time: one of them may be on two pages, and then the
other is on none. -/
theorem exists_pages_incomplete (htrans : ∀ a b c, before a b → before b c → before a c)
    (htotal : ∀ a b, before a b || before b a) (hcard : (db.rowsOf shown).card < 2 ^ 63)
    {a b : ScheduledConnection} (ha : a ∈ db.rowsOf shown) (hb : b ∈ db.rowsOf shown)
    (hab : before a b) (hba : before b a) (hne : a ≠ b) :
    ∃ result : Nat → List ScheduledConnection,
      (∀ i < (db.rowsOf shown).card,
        db.ConnectionPage shown before (.ofParams (pageParams 1 i)) (result i)) ∧
      ((List.range (db.rowsOf shown).card).flatMap result : Multiset ScheduledConnection) ≠
        db.rowsOf shown := by
  obtain ⟨others, hothers⟩ := Multiset.exists_cons_of_mem ha
  have hb' : b ∈ others := by
    rw [hothers] at hb
    exact (Multiset.mem_cons.mp hb).resolve_left hne.symm
  obtain ⟨rest, hrest⟩ := Multiset.exists_cons_of_mem hb'
  obtain ⟨front, back, hperm, horder, horder'⟩ :=
    exists_tied_orders htrans htotal hab hba rest.toList
  have hcoe : ∀ c d, ((front ++ c :: d :: back : List ScheduledConnection) :
      Multiset ScheduledConnection) = c ::ₘ d ::ₘ rest := by
    intro c d
    have hmiddle : (front ++ c :: d :: back).Perm (c :: d :: (front ++ back)) :=
      List.perm_middle.trans (List.Perm.cons c List.perm_middle)
    rw [Multiset.coe_eq_coe.mpr hmiddle, ← Multiset.cons_coe, ← Multiset.cons_coe,
      Multiset.coe_eq_coe.mpr hperm, Multiset.coe_toList]
  have hrows : db.rowsOf shown = a ::ₘ b ::ₘ rest := by rw [hothers, hrest]
  rw [hrows] at hcard ⊢
  have hlength : (a ::ₘ b ::ₘ rest).card = (front ++ a :: a :: back).length := by
    rw [← hcoe a b, Multiset.coe_card, List.length_append, List.length_append]
    rfl
  -- every page is what it would be if the first row were there in the place of the other
  refine ⟨fun i => ((front ++ a :: a :: back).drop (i * 1)).take 1, fun i hi => ?_, ?_⟩
  · refine (connectionPage_iff le_rfl (by decide) (by omega)).mpr ?_
    dsimp only
    by_cases hplace : i = front.length + 1
    · refine ⟨front ++ b :: a :: back, ?_, horder', ?_⟩
      · rw [hcoe, hrows, Multiset.cons_swap]
      · rw [hplace, Nat.mul_one, List.take_one, List.take_one, List.head?_drop, List.head?_drop]
        simp
    · refine ⟨front ++ a :: b :: back, by rw [hcoe, hrows], horder, ?_⟩
      have hsame : (front ++ a :: a :: back)[i]? = (front ++ a :: b :: back)[i]? := by
        rw [List.getElem?_append, List.getElem?_append]
        split_ifs with hlt
        · rfl
        · match hj : i - front.length with
          | 0 => rfl
          | 1 => omega
          | j + 2 => rfl
      rw [Nat.mul_one, List.take_one, List.take_one, List.head?_drop, List.head?_drop, hsame]
  · rw [flatMap_pages, Nat.mul_one, hlength, List.take_length, hcoe]
    intro heq
    have htail := (Multiset.cons_inj_right a).mp heq
    exact hne ((Multiset.cons_inj_left rest).mp htail)

theorem pagesReliable_connectionPage (htrans : ∀ a b c, before a b → before b c → before a c)
    (htotal : ∀ a b, before a b || before b a) (hcard : (db.rowsOf shown).card < 2 ^ 63) :
    PagesReliable (db.ConnectionPage shown before) (db.rowsOf shown) ↔
      ∀ a ∈ db.rowsOf shown, ∀ b ∈ db.rowsOf shown, before a b → before b a → a = b := by
  constructor
  · intro hreliable a ha b hb hab hba
    by_contra hne
    obtain ⟨result, hpages, hmissing⟩ :=
      exists_pages_incomplete htrans htotal hcard ha hb hab hba hne
    exact hmissing (hreliable 1 _ result le_rfl (by decide) (by omega) (by omega) hpages)
  · intro hunique limit count result hlimit hle hcount hsmall hpages
    exact pages_complete htrans htotal hunique hlimit hle hcount hsmall hpages

/-- The pages of either listing can be relied on exactly if no two rows that differ have one
time. -/
theorem pagesReliable_iff (hcard : db.scheduledConnections.card < 2 ^ 63) :
    (PagesReliable db.GetUpcomingConnections (db.rowsOf awaited) ↔
      ∀ a ∈ db.rowsOf awaited, ∀ b ∈ db.rowsOf awaited, a.scheduleTime = b.scheduleTime → a = b) ∧
    (PagesReliable db.GetConnectionHistory (db.rowsOf past) ↔
      ∀ a ∈ db.rowsOf past, ∀ b ∈ db.rowsOf past, a.scheduleTime = b.scheduleTime → a = b) := by
  have hrows : ∀ shown, (db.rowsOf shown).card < 2 ^ 63 := fun shown =>
    lt_of_le_of_lt (Multiset.card_le_card (Multiset.filter_le _ _)) hcard
  constructor
  · refine (pagesReliable_connectionPage earlier_trans earlier_total (hrows awaited)).trans ?_
    refine forall₄_congr fun a _ b _ => ?_
    rw [← and_imp, earlier_and_earlier]
  · refine (pagesReliable_connectionPage (fun a b c hab hbc => earlier_trans c b a hbc hab)
      (fun a b => earlier_total b a) (hrows past)).trans ?_
    refine forall₄_congr fun a _ b _ => ?_
    rw [← and_imp, and_comm, earlier_and_earlier]

end

/- Two meters of one bucket are due at the same time. -/
def tiedMeters : PostgresDB :=
  { PostgresDB.ofIds ∅ {1, 2} with
    scheduledConnections := {awaitingConnection 1 60 0, awaitingConnection 2 60 1}
    connection_device := by decide }

theorem pagesReliable_iff_tied :
    ¬ PagesReliable tiedMeters.GetUpcomingConnections (tiedMeters.rowsOf awaited) := by
  intro hreliable
  have hsame := (@pagesReliable_iff tiedMeters (by decide)).1.mp hreliable
    (awaitingConnection 1 60 0) (by decide) (awaitingConnection 2 60 1) (by decide) rfl
  exact absurd hsame (by decide)

end PostgresDB

end HeadEnd
