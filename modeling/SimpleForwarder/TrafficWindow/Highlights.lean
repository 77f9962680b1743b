import SimpleForwarder.Lib.Selection
import SimpleForwarder.TrafficWindow.System

/-!
Contract: the highlights are the connections with the most bytes
(`TrafficDataSource::recompute_highlights`).

Owns: for one fixed reading of the counters, what `top_sent` and `top_recv` are
(`recomputeHighlights_topFive`): at most five ids above the threshold, none
left out with more bytes, each set a function of its own counter, and of the
order of the rows only among ties.

Does not own: counters that move between the loads of one pass.
-/

namespace SimpleForwarder

open Selection

namespace TrafficDataSource

/-- The loads of a pass during which no counter moves. -/
def fixedLoads (reading : Counter → UInt64) : HighlightLoads := ⟨reading, reading⟩

/-- Each row's id and what its counter reads. -/
def readings (reading : Counter → UInt64) (counter : ConnectionInfo → Counter)
    (connections : List ConnectionInfo) : List (UInt64 × UInt64) :=
  connections.map fun c => (c.id, reading (counter c))

/-- The ids are the top five by `bytes` of the connections above the threshold. -/
structure IsTopFive (connections : List ConnectionInfo) (bytes : ConnectionInfo → UInt64)
    (top : Finset UInt64) : Prop where
  card : top.card =
    min 5 (connections.filter fun c => 10 * 1024 * 1024 < bytes c).length
  above : ∀ id ∈ top, ∃ c ∈ connections, c.id = id ∧ 10 * 1024 * 1024 < bytes c
  heaviest : ∀ inside ∈ connections, ∀ outside ∈ connections,
    inside.id ∈ top → outside.id ∉ top → 10 * 1024 * 1024 < bytes outside →
      bytes outside ≤ bytes inside

/-- The sets have one size, and what they do not share has the same bytes. -/
structure SameUpToTies (connections : List ConnectionInfo) (bytes : ConnectionInfo → UInt64)
    (left right : Finset UInt64) : Prop where
  card : left.card = right.card
  ties : ∀ c ∈ connections, ∀ other ∈ connections,
    c.id ∈ left → c.id ∉ right → other.id ∈ right → other.id ∉ left → bytes c = bytes other

/-! ## The rows that are chosen -/

/-- The rows above the threshold. -/
def candidates (rows : List (UInt64 × UInt64)) : List (UInt64 × UInt64) :=
  rows.filter fun row => highlightMinBytes < row.2

/-- The rows whose ids are highlighted. -/
def chosenRows (sort : UnstableSort) (rows : List (UInt64 × UInt64)) :
    Finset (UInt64 × UInt64) :=
  ((sort.sort (candidates rows)).take topN).toFinset

section

variable {sort otherSort : UnstableSort} {rows otherRows : List (UInt64 × UInt64)}

/-- A set of highlights is determined by the readings of its counter. -/
theorem topBy_eq (sort : UnstableSort) (reading : Counter → UInt64)
    (counter : ConnectionInfo → Counter) (connections : List ConnectionInfo) :
    topBy sort (fixedLoads reading) counter connections =
      (chosenRows sort (readings reading counter connections)).image Prod.fst := by
  unfold topBy chosenRows candidates readings fixedLoads
  rw [List.filter_map]
  apply Finset.ext
  intro id
  rw [List.mem_toFinset, Finset.mem_image]
  simp only [List.mem_toFinset, List.mem_map]
  rfl

theorem isHeaviest_chosenRows (sort : UnstableSort) (distinct : (rows.map Prod.fst).Nodup) :
    IsHeaviest topN (fun row => row.2.toNat) (candidates rows).toFinset
      (chosenRows sort rows) := by
  have perm := sort.perm (candidates rows)
  have rowsDistinct : rows.Nodup := List.Nodup.of_map Prod.fst distinct
  have candidatesDistinct : (candidates rows).Nodup := rowsDistinct.filter _
  rw [← List.toFinset_eq_of_perm _ _ perm]
  exact isHeaviest_take topN (perm.nodup_iff.mpr candidatesDistinct) (sort.sorted _)

/-- An id is highlighted exactly when its row is chosen. -/
theorem fst_mem_image_chosenRows (distinct : (rows.map Prod.fst).Nodup) {row : UInt64 × UInt64}
    (member : row ∈ rows) :
    row.1 ∈ (chosenRows sort rows).image Prod.fst ↔ row ∈ chosenRows sort rows := by
  constructor
  · intro highlighted
    obtain ⟨other, chosen, sameId⟩ := Finset.mem_image.mp highlighted
    have otherMember := (isHeaviest_chosenRows sort distinct).subset chosen
    rw [List.mem_toFinset] at otherMember
    have same : other = row :=
      List.inj_on_of_nodup_map distinct (List.mem_of_mem_filter otherMember) member sameId
    rwa [same] at chosen
  · intro chosen
    exact Finset.mem_image_of_mem Prod.fst chosen

theorem card_image_chosenRows (distinct : (rows.map Prod.fst).Nodup) :
    ((chosenRows sort rows).image Prod.fst).card = min topN (candidates rows).length := by
  have heaviest := isHeaviest_chosenRows sort distinct
  have injective : Set.InjOn Prod.fst (chosenRows sort rows : Set (UInt64 × UInt64)) := by
    intro row chosen other otherChosen sameId
    have member := heaviest.subset chosen
    have otherMember := heaviest.subset otherChosen
    rw [List.mem_toFinset] at member otherMember
    exact List.inj_on_of_nodup_map distinct (List.mem_of_mem_filter member)
      (List.mem_of_mem_filter otherMember) sameId
  rw [Finset.card_image_of_injOn injective, heaviest.card, List.toFinset_card_of_nodup]
  exact (List.Nodup.of_map Prod.fst distinct).filter _

/-- The chosen rows of two orders differ only among rows with the same bytes. -/
theorem tie_of_perm (distinct : (rows.map Prod.fst).Nodup) (perm : otherRows.Perm rows)
    {row other : UInt64 × UInt64} (inside : row ∈ chosenRows otherSort otherRows)
    (outside : row ∉ chosenRows sort rows) (otherInside : other ∈ chosenRows sort rows)
    (otherOutside : other ∉ chosenRows otherSort otherRows) : row.2 = other.2 := by
  have otherDistinct : (otherRows.map Prod.fst).Nodup := (perm.map _).nodup_iff.mpr distinct
  have left := isHeaviest_chosenRows otherSort otherDistinct
  have sameCandidates : (candidates otherRows).toFinset = (candidates rows).toFinset :=
    List.toFinset_eq_of_perm _ _ (perm.filter _)
  rw [sameCandidates] at left
  apply UInt64.toNat_inj.mp
  exact left.tie (isHeaviest_chosenRows sort distinct) inside outside otherInside otherOutside

end

/-! ## One set of highlights -/

section

variable {sort otherSort : UnstableSort} {reading otherReading : Counter → UInt64}
  {counter : ConnectionInfo → Counter} {connections otherConnections : List ConnectionInfo}

theorem map_fst_readings : (readings reading counter connections).map Prod.fst =
    connections.map ConnectionInfo.id := by
  unfold readings
  rw [List.map_map]
  rfl

theorem mem_readings {c : ConnectionInfo} (member : c ∈ connections) :
    (c.id, reading (counter c)) ∈ readings reading counter connections :=
  List.mem_map_of_mem member

/-- The connection is highlighted exactly when its row is chosen. -/
theorem id_mem_topBy (distinct : (connections.map ConnectionInfo.id).Nodup) {c : ConnectionInfo}
    (member : c ∈ connections) :
    c.id ∈ topBy sort (fixedLoads reading) counter connections ↔
      (c.id, reading (counter c)) ∈ chosenRows sort (readings reading counter connections) := by
  have rowsDistinct : ((readings reading counter connections).map Prod.fst).Nodup := by
    rwa [map_fst_readings]
  rw [topBy_eq]
  exact fst_mem_image_chosenRows rowsDistinct (mem_readings member)

/-- The candidates are the rows of the connections above the threshold. -/
theorem candidates_readings :
    candidates (readings reading counter connections) =
      (connections.filter fun c => 10 * 1024 * 1024 < reading (counter c)).map
        fun c => (c.id, reading (counter c)) := by
  unfold candidates readings
  rw [List.filter_map]
  rfl

theorem topBy_topFive (sort : UnstableSort) (reading : Counter → UInt64)
    (counter : ConnectionInfo → Counter)
    (distinct : (connections.map ConnectionInfo.id).Nodup) :
    IsTopFive connections (fun c => reading (counter c))
      (topBy sort (fixedLoads reading) counter connections) := by
  have rowsDistinct : ((readings reading counter connections).map Prod.fst).Nodup := by
    rwa [map_fst_readings]
  have heaviest := isHeaviest_chosenRows sort rowsDistinct
  constructor
  · rw [topBy_eq, card_image_chosenRows rowsDistinct, candidates_readings, List.length_map]
    rfl
  · intro id highlighted
    rw [topBy_eq] at highlighted
    obtain ⟨row, chosen, rfl⟩ := Finset.mem_image.mp highlighted
    have candidate := heaviest.subset chosen
    rw [List.mem_toFinset, candidates_readings] at candidate
    obtain ⟨c, member, rfl⟩ := List.mem_map.mp candidate
    rw [List.mem_filter] at member
    exact ⟨c, member.1, rfl, of_decide_eq_true member.2⟩
  · intro inside member outside otherMember highlighted left above
    rw [id_mem_topBy distinct member] at highlighted
    rw [id_mem_topBy distinct otherMember] at left
    have candidate : (outside.id, reading (counter outside)) ∈
        (candidates (readings reading counter connections)).toFinset := by
      rw [List.mem_toFinset]
      apply List.mem_filter.mpr
      exact ⟨mem_readings otherMember, decide_eq_true above⟩
    exact UInt64.le_iff_toNat_le.mpr (heaviest.heaviest _ highlighted _ candidate left)

/-- Nothing but the ids and what the counter reads decides. -/
theorem topBy_congr (sort : UnstableSort)
    (same : readings otherReading counter otherConnections =
      readings reading counter connections) :
    topBy sort (fixedLoads otherReading) counter otherConnections =
      topBy sort (fixedLoads reading) counter connections := by
  rw [topBy_eq, topBy_eq, same]

/-- Another order of the rows, and another sort, change the set only among
ties. -/
theorem topBy_sameUpToTies (distinct : (connections.map ConnectionInfo.id).Nodup)
    (perm : otherConnections.Perm connections) :
    SameUpToTies connections (fun c => reading (counter c))
      (topBy otherSort (fixedLoads reading) counter otherConnections)
      (topBy sort (fixedLoads reading) counter connections) := by
  have otherDistinct : (otherConnections.map ConnectionInfo.id).Nodup :=
    (perm.map _).nodup_iff.mpr distinct
  constructor
  · rw [(topBy_topFive otherSort reading counter otherDistinct).card,
      (topBy_topFive sort reading counter distinct).card, (perm.filter _).length_eq]
  · intro c member other otherMember inLeft notRight inRight notLeft
    rw [id_mem_topBy otherDistinct (perm.mem_iff.mpr member)] at inLeft
    rw [id_mem_topBy distinct member] at notRight
    rw [id_mem_topBy distinct otherMember] at inRight
    rw [id_mem_topBy otherDistinct (perm.mem_iff.mpr otherMember)] at notLeft
    have rowsDistinct : ((readings reading counter connections).map Prod.fst).Nodup := by
      rwa [map_fst_readings]
    exact tie_of_perm rowsDistinct (perm.map _) inLeft notRight inRight notLeft

end

/-! ## Both sets -/

/-- For one reading of the counters the highlights are the top five by each
counter. Each set is decided by the ids and its own counter, and the order of
the rows matters only among ties. -/
theorem recomputeHighlights_topFive (sort : UnstableSort) (reading : Counter → UInt64)
    (dataSource : TrafficDataSource) (distinct : dataSource.ids.Nodup) :
    IsTopFive dataSource.connections (fun c => reading c.bytesSent)
        (dataSource.recomputeHighlights sort (fixedLoads reading)).topSent ∧
      IsTopFive dataSource.connections (fun c => reading c.bytesReceived)
        (dataSource.recomputeHighlights sort (fixedLoads reading)).topRecv ∧
      (∀ (otherReading : Counter → UInt64) (other : TrafficDataSource),
        (readings otherReading ConnectionInfo.bytesSent other.connections =
            readings reading ConnectionInfo.bytesSent dataSource.connections →
          (other.recomputeHighlights sort (fixedLoads otherReading)).topSent =
            (dataSource.recomputeHighlights sort (fixedLoads reading)).topSent) ∧
        (readings otherReading ConnectionInfo.bytesReceived other.connections =
            readings reading ConnectionInfo.bytesReceived dataSource.connections →
          (other.recomputeHighlights sort (fixedLoads otherReading)).topRecv =
            (dataSource.recomputeHighlights sort (fixedLoads reading)).topRecv)) ∧
      ∀ (otherSort : UnstableSort) (other : TrafficDataSource),
        other.connections.Perm dataSource.connections →
          SameUpToTies dataSource.connections (fun c => reading c.bytesSent)
              (other.recomputeHighlights otherSort (fixedLoads reading)).topSent
              (dataSource.recomputeHighlights sort (fixedLoads reading)).topSent ∧
            SameUpToTies dataSource.connections (fun c => reading c.bytesReceived)
              (other.recomputeHighlights otherSort (fixedLoads reading)).topRecv
              (dataSource.recomputeHighlights sort (fixedLoads reading)).topRecv := by
  refine ⟨topBy_topFive sort reading _ distinct, topBy_topFive sort reading _ distinct, ?_, ?_⟩
  · intro otherReading other
    exact ⟨topBy_congr sort, topBy_congr sort⟩
  · intro otherSort other perm
    exact ⟨topBy_sameUpToTies distinct perm, topBy_sameUpToTies distinct perm⟩

/-- Seven connections, which write and read through different counters. -/
def sevenRows : TrafficDataSource where
  connections := (List.range 7).map fun row =>
    { id := UInt64.ofNat row, sourceIp := [], outboundTarget := [], proxyProtocol := []
      proxy := [], startTime := [], status := .connected, bytesSent := row
      bytesReceived := row + 7, exeName := [], closedAt := none }
  topSent := ∅
  topRecv := ∅

/-- All counters but one read 20 MiB. -/
def tiedReading (counter : Counter) : UInt64 :=
  if counter = 3 then 10 * 1024 * 1024 else 20 * 1024 * 1024

/-- The row at the threshold is left out, and so is one of the six that tie. -/
theorem recomputeHighlights_topFive_tied :
    IsTopFive sevenRows.connections (fun c => tiedReading c.bytesSent)
        (sevenRows.recomputeHighlights .stable (fixedLoads tiedReading)).topSent ∧
      (sevenRows.recomputeHighlights .stable (fixedLoads tiedReading)).topSent =
        {0, 1, 2, 4, 5} :=
  ⟨(recomputeHighlights_topFive .stable tiedReading sevenRows (by decide)).1, by decide +kernel⟩

end TrafficDataSource

end SimpleForwarder
