import GuestSim.Proofs.Running

/-! # The blocks of a unit

While a unit grows, its blocks lead through the instructions included so far to the boundary behind
them. Nothing leads to what was left of an instruction that failed. -/

namespace GuestSim

/-! ## Graphs -/

namespace Graph

variable {graph graph' : Graph}

@[simp] theorem size_add (graph : Graph) (block : Block) :
    (graph.add block).size = graph.size + 1 :=
  Array.size_push block

@[simp] theorem size_close (graph : Graph) (id : Nat) (jump : Jump) :
    (graph.close id jump).size = graph.size :=
  Array.size_modify

@[simp] theorem size_closeSince (graph : Graph) (first : Nat) :
    (graph.closeSince first).size = graph.size :=
  Array.size_mapIdx

theorem getElem?_add (graph : Graph) (block : Block) (id : Nat) :
    (graph.add block).blocks[id]? = if id = graph.size then some block else graph.blocks[id]? :=
  Array.getElem?_push

theorem getElem?_close (graph : Graph) (id' : Nat) (jump : Jump) (id : Nat) :
    (graph.close id' jump).blocks[id]? =
      if id' = id then graph.blocks[id]?.map fun block => { block with jump := some jump }
      else graph.blocks[id]? :=
  Array.getElem?_modify

/-- Only open blocks are changed, and blocks are added. -/
def Extends (graph graph' : Graph) : Prop :=
  ∀ (id : Nat) (block : Block), graph.blocks[id]? = some block → block.jump.isSome = true →
    graph'.blocks[id]? = some block

/-- From the boundary at a block on, control runs through these instructions, of which the first
has position `ordinal`, and arrives at the boundary `last` unless it leaves before. -/
inductive Leads (graph : Graph) : (id ordinal : Nat) → List Fragment → (last : Option Nat) → Prop where
  | arrived {id ordinal : Nat} : Leads graph id ordinal [] (some id)
  | through {id ordinal inner next : Nat} {fragment : Fragment} {rest : List Fragment}
      {last : Option Nat} (hboundary : graph.blocks[id]? = some ⟨[], some (.block inner)⟩)
      (hinner : graph.blocks[inner]? =
        some ⟨[.before ordinal, .body fragment.body, .after ordinal], some (.block next)⟩)
      (hopen : fragment.isOpen = true) (hrest : Leads graph next (ordinal + 1) rest last) :
      Leads graph id ordinal (fragment :: rest) last
  | out {id ordinal inner : Nat} {fragment : Fragment}
      (hboundary : graph.blocks[id]? = some ⟨[], some (.block inner)⟩)
      (hinner : graph.blocks[inner]? =
        some ⟨[.before ordinal, .body fragment.body], some .leave⟩)
      (hclosed : fragment.isOpen = false) : Leads graph id ordinal [fragment] none

theorem Leads.mono {id ordinal : Nat} {fragments : List Fragment} {last : Option Nat}
    (h : graph.Leads id ordinal fragments last) (hextends : graph.Extends graph') :
    graph'.Leads id ordinal fragments last := by
  induction h with
  | arrived => exact .arrived
  | through hboundary hinner hopen _ ih =>
      exact .through (hextends _ _ hboundary rfl) (hextends _ _ hinner rfl) hopen ih
  | out hboundary hinner hclosed =>
      exact .out (hextends _ _ hboundary rfl) (hextends _ _ hinner rfl) hclosed

theorem Leads.append {id ordinal middle : Nat} {front rest : List Fragment} {last : Option Nat}
    (h : graph.Leads id ordinal front (some middle))
    (hrest : graph.Leads middle (ordinal + front.length) rest last) :
    graph.Leads id ordinal (front ++ rest) last := by
  generalize hmiddle : some middle = boundary at h
  induction h with
  | arrived =>
      obtain rfl := Option.some.inj hmiddle
      exact hrest
  | through hboundary hinner hopen _ ih =>
      refine .through hboundary hinner hopen (ih ?_ hmiddle)
      rwa [Nat.add_assoc, Nat.add_comm 1]
  | out => simp at hmiddle

theorem codeFrom_succ {id : Nat} {block : Block} (h : graph.blocks[id]? = some block)
    (settings : Settings) (most : Nat) :
    graph.codeFrom settings (most + 1) id = (do
      block.pieces.forM (Piece.code settings)
      match block.jump with
      | some (.block next) => graph.codeFrom settings most next
      | some .leave | none => throw .leave) := by
  rewrite [codeFrom, h]
  rfl

/-- Where the boundary behind the instructions leaves the unit, the code is that of the instructions
in sequence. -/
theorem Leads.codeFrom_eq {id ordinal : Nat} {fragments : List Fragment} {last : Option Nat}
    (h : graph.Leads id ordinal fragments last)
    (hlast : ∀ id, last = some id → graph.blocks[id]? = some ⟨[], some .leave⟩)
    (settings : Settings) {most : Nat} (hmost : 2 * fragments.length + last.toList.length ≤ most) :
    graph.codeFrom settings most id = Draft.sequence settings ordinal fragments := by
  induction h generalizing most with
  | arrived =>
      obtain ⟨most, rfl⟩ := Nat.exists_eq_add_of_le' hmost
      exact codeFrom_succ (hlast _ rfl) settings most
  | @through _ _ _ _ _ rest _ hboundary hinner hopen _ ih =>
      obtain ⟨most, rfl⟩ := Nat.exists_eq_add_of_le' (Nat.le_trans
        (by rw [List.length_cons]; omega : 2 ≤ _) hmost)
      rw [codeFrom_succ hboundary, Draft.sequence, if_pos hopen]
      simp only [List.forM_eq_forM, List.forM_nil, pure_bind]
      rw [codeFrom_succ hinner]
      simp only [List.forM_eq_forM, List.forM_cons, List.forM_nil, bind_assoc, pure_bind]
      rw [ih hlast (by rw [List.length_cons] at hmost; omega)]
      rfl
  | out hboundary hinner hclosed =>
      have htwo : 2 ≤ most := hmost
      obtain ⟨most, rfl⟩ := Nat.exists_eq_add_of_le' htwo
      rw [codeFrom_succ hboundary, Draft.sequence, if_neg (by simp [hclosed])]
      simp only [List.forM_eq_forM, List.forM_nil, pure_bind]
      rw [codeFrom_succ hinner]
      simp only [List.forM_eq_forM, List.forM_cons, List.forM_nil, bind_assoc, pure_bind]
      rfl

theorem lt_size {id : Nat} {block : Block} (h : graph.blocks[id]? = some block) :
    id < graph.size :=
  (Array.getElem?_eq_some_iff.mp h).1

theorem extends_add (graph : Graph) (block : Block) : graph.Extends (graph.add block) := by
  intro id old h _
  rw [getElem?_add, if_neg (Nat.ne_of_lt (lt_size h)), h]

theorem Extends.trans {graph'' : Graph} (h : graph.Extends graph') (h' : graph'.Extends graph'') :
    graph.Extends graph'' :=
  fun id block hblock hjump => h' id block (h id block hblock hjump) hjump

theorem extends_close {id : Nat} {block : Block} (h : graph.blocks[id]? = some block)
    (hopen : block.jump = none) (jump : Jump) : graph.Extends (graph.close id jump) := by
  intro id' block' h' hclosed
  have hne : id ≠ id' := by
    rintro rfl
    rw [h] at h'
    obtain rfl := Option.some.inj h'
    simp [hopen] at hclosed
  rw [getElem?_close, if_neg hne, h']

/-- Another block is made, and a boundary that was open leads to it. -/
theorem getElem?_link {id : Nat} (h : graph.blocks[id]? = some {}) (block : Block) (i : Nat) :
    ((graph.add block).close id (.block graph.size)).blocks[i]? =
      if i = id then some ⟨[], some (.block graph.size)⟩
      else if i = graph.size then some block else graph.blocks[i]? := by
  have hlt := lt_size h
  rw [getElem?_close, getElem?_add]
  by_cases hi : i = id
  · subst hi
    rw [if_pos rfl, if_pos rfl, if_neg (Nat.ne_of_lt hlt), h]
    rfl
  · rw [if_neg (Ne.symm hi), if_neg hi]

theorem extends_link {id : Nat} (h : graph.blocks[id]? = some {}) (block : Block) :
    graph.Extends ((graph.add block).close id (.block graph.size)) := by
  have hlt := lt_size h
  have hblock : (graph.add block).blocks[id]? = some {} := by
    rw [getElem?_add, if_neg (Nat.ne_of_lt hlt), h]
  exact (graph.extends_add block).trans (extends_close hblock rfl _)

/-- What is left of an instruction that failed gets a block of its own. -/
theorem getElem?_discard (graph : Graph) (pieces : List Piece) (i : Nat) :
    ((graph.add ⟨pieces, none⟩).closeSince graph.size).blocks[i]? =
      if i = graph.size then some ⟨pieces, some .leave⟩ else graph.blocks[i]? := by
  simp only [closeSince, Array.getElem?_mapIdx, getElem?_add]
  by_cases hi : i = graph.size
  · simp [hi]
  · rw [if_neg hi, if_neg hi]
    cases hblock : graph.blocks[i]? with
    | none => rfl
    | some block =>
        have hlt := lt_size hblock
        simp [Nat.not_le_of_lt hlt]

theorem extends_discard (graph : Graph) (pieces : List Piece) :
    graph.Extends ((graph.add ⟨pieces, none⟩).closeSince graph.size) := by
  intro i block h _
  rw [getElem?_discard, if_neg (Nat.ne_of_lt (lt_size h)), h]

/-! ### Open blocks -/

/-- No block is open but the boundary, if there is one, and blocks lead to blocks. -/
structure Sound (graph : Graph) (boundary : Option Nat) : Prop where
  empty : ∀ id, boundary = some id → graph.blocks[id]? = some {}
  closed : ∀ (id : Nat) (block : Block), graph.blocks[id]? = some block → block.jump = none →
    boundary = some id
  targets : ∀ (id : Nat) (block : Block) (next : Nat), graph.blocks[id]? = some block →
    block.jump = some (.block next) → next < graph.size

theorem sound_empty : Sound {} (some 0) where
  empty := by
    rintro id ⟨⟩
    rfl
  closed id block h _ := by
    cases id with
    | zero => rfl
    | succ id => simp at h
  targets id block next h hjump := by
    cases id with
    | zero =>
        obtain rfl := Option.some.inj h
        simp at hjump
    | succ id => simp at h

variable {id : Nat} {boundary : Option Nat}

theorem Sound.link_last (h : graph.Sound (some id)) (pieces : List Piece) :
    ((graph.add ⟨pieces, some .leave⟩).close id (.block graph.size)).Sound none where
  empty := by rintro _ ⟨⟩
  closed i block hblock hopen := by
    have hold := h.closed i block
    rw [getElem?_link (h.empty id rfl)] at hblock
    grind
  targets i block next hblock hjump := by
    have hold := h.targets i block next
    rw [getElem?_link (h.empty id rfl)] at hblock
    rw [size_close, size_add]
    grind

theorem Sound.link_next (h : graph.Sound (some id)) (pieces : List Piece) :
    (((graph.add ⟨pieces, some (.block (graph.size + 1))⟩).close id (.block graph.size)).add
      {}).Sound (some (graph.size + 1)) where
  empty := by
    rintro _ ⟨⟩
    rw [getElem?_add, size_close, size_add, if_pos rfl]
  closed i block hblock hopen := by
    have hold := h.closed i block
    rw [getElem?_add, size_close, size_add, getElem?_link (h.empty id rfl)] at hblock
    grind
  targets i block next hblock hjump := by
    have hold := h.targets i block next
    rw [getElem?_add, size_close, size_add, getElem?_link (h.empty id rfl)] at hblock
    rw [size_add, size_close, size_add]
    grind

theorem Sound.discard (h : graph.Sound boundary) (pieces : List Piece) :
    ((graph.add ⟨pieces, none⟩).closeSince graph.size).Sound boundary where
  empty i hi := by
    have hold := h.empty i hi
    rw [getElem?_discard, if_neg (Nat.ne_of_lt (lt_size hold)), hold]
  closed i block hblock hopen := by
    have hold := h.closed i block
    rw [getElem?_discard] at hblock
    grind
  targets i block next hblock hjump := by
    have hold := h.targets i block next
    rw [getElem?_discard] at hblock
    rw [size_closeSince, size_add]
    grind

theorem Sound.finish (h : graph.Sound (some id)) : (graph.close id .leave).Sound none where
  empty := by rintro _ ⟨⟩
  closed i block hblock hopen := by
    have hold := h.closed i
    rw [getElem?_close] at hblock
    grind
  targets i block next hblock hjump := by
    have hold := h.targets i
    rw [getElem?_close] at hblock
    rw [size_close]
    grind

/-! ### Blocks that nothing leads to -/

/-- A block that is complete, although no block leads to it. -/
structure Drops (graph : Graph) (pieces : List Piece) (id : Nat) : Prop where
  block : graph.blocks[id]? = some ⟨pieces, some .leave⟩
  not_entry : id ≠ 0
  unlinked : ∀ (other : Nat) (block : Block), graph.blocks[other]? = some block →
    block.jump ≠ some (.block id)

theorem Sound.drops (h : graph.Sound boundary) (hpos : 0 < graph.size) (pieces : List Piece) :
    ((graph.add ⟨pieces, none⟩).closeSince graph.size).Drops pieces graph.size where
  block := by rw [getElem?_discard, if_pos rfl]
  not_entry := Nat.ne_of_gt hpos
  unlinked other block hblock hjump := by
    have hold := h.targets other block graph.size
    rw [getElem?_discard] at hblock
    grind

theorem Drops.close {pieces : List Piece} {dropped : Nat} (h : graph.Drops pieces dropped)
    (hopen : graph.blocks[id]? = some {}) : (graph.close id .leave).Drops pieces dropped where
  block := extends_close hopen rfl .leave dropped _ h.block rfl
  not_entry := h.not_entry
  unlinked other block hblock := by
    rw [getElem?_close] at hblock
    by_cases hother : id = other
    · rw [if_pos hother, ← hother, hopen] at hblock
      obtain rfl := Option.some.inj hblock
      simp
    · rw [if_neg hother] at hblock
      exact h.unlinked other block hblock

end Graph

/-! ## Units in the making -/

namespace Sketch

variable {sketch : Sketch}

/-- The blocks lead through the instructions to the boundary behind them. -/
structure Sound (sketch : Sketch) : Prop where
  graph : sketch.graph.Sound sketch.boundary
  leads : sketch.graph.Leads 0 0 sketch.fragments.reverse sketch.boundary
  size : 2 * sketch.fragments.length + sketch.boundary.toList.length ≤ sketch.graph.size
  pos : 0 < sketch.graph.size

theorem sound_empty : Sound {} where
  graph := Graph.sound_empty
  leads := .arrived
  size := Nat.le_refl 1
  pos := Nat.zero_lt_one

/-- An instruction is linked behind those included before. -/
theorem Sound.extend (h : sketch.Sound) {id : Nat} (hboundary : sketch.boundary = some id)
    (pc : VirtAddr) (step : Step) :
    (sketch.extend sketch.fragments.length pc step).Sound := by
  obtain ⟨hgraph, hleads, hsize, -⟩ := h
  rw [hboundary] at hgraph hleads hsize
  have hempty := hgraph.empty id rfl
  have hlt := Graph.lt_size hempty
  have hordinal : 0 + sketch.fragments.reverse.length = sketch.fragments.length := by
    rw [Nat.zero_add, List.length_reverse]
  cases hopen : step.isOpen with
  | true =>
      simp only [Sketch.extend, hopen, hboundary, if_true, Option.elim]
      refine ⟨hgraph.link_next _, ?_, ?_, ?_⟩
      · rw [List.reverse_cons]
        refine (hleads.mono ((Graph.extends_link hempty _).trans (Graph.extends_add _ _))).append
          (@Graph.Leads.through _ _ _ sketch.graph.size _ _ _ _ ?_ ?_ rfl .arrived)
        · rw [Graph.getElem?_add, Graph.getElem?_link hempty]
          simp [Nat.ne_of_lt (Nat.lt_succ_of_lt hlt)]
        · rw [Graph.getElem?_add, Graph.getElem?_link hempty, hordinal]
          simp [Nat.ne_of_gt hlt]
      · simp only [List.length_cons, Option.toList_some, List.length_nil, Graph.size_add,
          Graph.size_close] at hsize ⊢
        omega
      · simp
  | false =>
      simp only [Sketch.extend, hopen, hboundary, Bool.false_eq_true, if_false, Option.elim]
      refine ⟨hgraph.link_last _, ?_, ?_, ?_⟩
      · rw [List.reverse_cons]
        refine (hleads.mono (Graph.extends_link hempty _)).append
          (@Graph.Leads.out _ _ _ sketch.graph.size _ ?_ ?_ rfl)
        · rw [Graph.getElem?_link hempty, if_pos rfl]
        · rw [Graph.getElem?_link hempty, hordinal, if_neg (Nat.ne_of_gt hlt), if_pos rfl]
      · simp only [List.length_cons, Option.toList_some, Option.toList_none, List.length_nil,
          Graph.size_add, Graph.size_close] at hsize ⊢
        omega
      · simp

theorem Sound.discard (h : sketch.Sound) (ordinal : Nat) (emitted : Body Unit) :
    (sketch.discard ordinal emitted).Sound where
  graph := h.graph.discard _
  leads := h.leads.mono (Graph.extends_discard _ _)
  size := by
    have hsize := h.size
    simp only [Sketch.discard, Graph.size_closeSince, Graph.size_add]
    omega
  pos := by simp [Sketch.discard]

/-! ### Complete units -/

theorem Sound.finish_sound (h : sketch.Sound) : sketch.finish.Sound none := by
  have hgraph := h.graph
  rw [finish]
  cases hboundary : sketch.boundary with
  | none => rwa [hboundary] at hgraph
  | some id =>
      rw [hboundary] at hgraph
      exact hgraph.finish

/-- The code of a complete unit is that of its instructions in sequence. -/
theorem Sound.code_finish (h : sketch.Sound) (settings : Settings) :
    sketch.finish.code settings = Draft.sequence settings 0 sketch.fragments.reverse := by
  obtain ⟨hgraph, hleads, hsize, -⟩ := h
  rw [← List.length_reverse] at hsize
  rw [finish, Graph.code]
  cases hboundary : sketch.boundary with
  | none =>
      rw [hboundary] at hleads hsize
      exact hleads.codeFrom_eq (by rintro _ ⟨⟩) settings hsize
  | some id =>
      rw [hboundary] at hgraph hleads hsize
      have hempty := hgraph.empty id rfl
      refine (hleads.mono (Graph.extends_close hempty rfl .leave)).codeFrom_eq ?_ settings ?_
      · rintro _ ⟨⟩
        rw [Graph.getElem?_close, if_pos rfl, hempty]
        rfl
      · rwa [Option.elim, Graph.size_close]

/-- Nothing leads to what was left of an instruction that failed. -/
theorem Sound.drops_discard (h : sketch.Sound) (ordinal : Nat) (emitted : Body Unit) :
    (sketch.discard ordinal emitted).finish.Drops [.before ordinal, .body emitted]
      sketch.graph.size := by
  have hdrops := h.graph.drops h.pos [.before ordinal, .body emitted]
  have hgraph := (h.discard ordinal emitted).graph
  rw [finish]
  cases hboundary : (sketch.discard ordinal emitted).boundary with
  | none => exact hdrops
  | some id => exact hdrops.close (hgraph.empty id hboundary)

end Sketch

end GuestSim
