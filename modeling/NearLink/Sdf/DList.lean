import Mathlib.Algebra.Order.Ring.Nat
import Mathlib.Data.List.Chain
import Mathlib.Data.List.Nodup
import Mathlib.Logic.Function.Basic

/-!
# Doubly linked lists

`sdf_dlist.c` over a memory of links.  A head is known by the entry in it; no
pointer is `NULL`.
-/

namespace NearLink.Sdf

open List Function

/-- The entries of memory, and the counters of the heads among them. -/
structure DLists (Node : Type*) where
  next : Node → Node
  prev : Node → Node
  size : Node → UInt32

variable {Node : Type*}

namespace DLists

def Linked (lists : DLists Node) (first second : Node) : Prop :=
  lists.next first = second ∧ lists.prev second = first

/-- The list at `head` is circular, links both ways and counts its nodes. -/
structure Formed (lists : DLists Node) (head : Node) (nodes : List Node) :
    Prop where
  distinct : (head :: nodes).Nodup
  linked : (head :: nodes ++ [head]).IsChain lists.Linked
  sized : (lists.size head).toNat = nodes.length

/-- Two lists of which no entry is in both. -/
structure Pair (lists : DLists Node) (dst : Node) (into : List Node)
    (src : Node) (others : List Node) : Prop where
  target : lists.Formed dst into
  source : lists.Formed src others
  apart : (dst :: into).Disjoint (src :: others)

variable {lists changed : DLists Node} {head dst src node : Node}
  {nodes others before after : List Node}

/-- A piece of a list stays linked when the link out of `node`, which leads out
of it, is all that changes in it. -/
theorem linked_frame (linked : nodes.IsChain lists.Linked)
    (nexts : ∀ entry ∈ nodes, entry ≠ node →
      changed.next entry = lists.next entry)
    (prevs : ∀ entry ∈ nodes.tail, changed.prev entry = lists.prev entry)
    (leads : lists.next node ∉ nodes.tail) : nodes.IsChain changed.Linked := by
  refine linked.imp_of_mem_tail_imp fun first second member later link => ?_
  have other : first ≠ node := by
    rintro rfl
    exact leads (link.1 ▸ later)
  exact ⟨(nexts first member other).trans link.1,
    (prevs second later).trans link.2⟩

theorem Formed.frame (formed : lists.Formed head nodes)
    (links : ∀ entry ∈ head :: nodes, changed.next entry = lists.next entry ∧
        changed.prev entry = lists.prev entry)
    (size : changed.size head = lists.size head) :
    changed.Formed head nodes := by
  have among (entry : Node) (member : entry ∈ head :: nodes ++ [head]) :
      entry ∈ head :: nodes := by
    simp only [cons_append, mem_cons, mem_append, not_mem_nil, or_false] at *
    tauto
  refine ⟨formed.distinct, ?_, size ▸ formed.sized⟩
  refine formed.linked.imp_of_mem_imp fun first second member later link => ?_
  exact ⟨(links first (among first member)).1.trans link.1,
    (links second (among second later)).2.trans link.2⟩

theorem head?_place (dst : Node) (after : List Node) :
    (after ++ [dst]).head? = some (after.head?.getD dst) := by
  cases after <;> rfl

theorem place_mem (dst : Node) (before : List Node) :
    before.getLast?.getD dst ∈ dst :: before :=
  mem_of_getLast? getLast?_cons

theorem head_mem (dst : Node) (after : List Node) :
    after.head?.getD dst ∈ after ++ [dst] :=
  mem_of_mem_head? (head?_place dst after)

theorem linked_split :
    (dst :: (before ++ after) ++ [dst]).IsChain lists.Linked ↔
      (dst :: before).IsChain lists.Linked ∧
      (after ++ [dst]).IsChain lists.Linked ∧
      lists.Linked (before.getLast?.getD dst) (after.head?.getD dst) := by
  rw [show dst :: (before ++ after) ++ [dst] =
    (dst :: before) ++ (after ++ [dst]) by simp, isChain_append]
  simp [getLast?_cons]

theorem place_apart (distinct : (dst :: (before ++ node :: after)).Nodup) :
    (∀ entry ∈ dst :: before, entry ≠ node) ∧
    (∀ entry ∈ before, entry ≠ after.head?.getD dst) ∧
    (∀ entry ∈ after ++ [dst], entry ≠ node) ∧
    ∀ entry ∈ (after ++ [dst]).tail, entry ≠ after.head?.getD dst := by
  cases after <;> grind

/-- A call that works beside one place, where it leaves `middle` of `node`, and
touches no other link. -/
theorem relink {middle : List Node} (part : middle <+ [node])
    (distinct : (dst :: (before ++ node :: after)).Nodup)
    (apart : (dst :: (before ++ node :: after)).Disjoint (src :: others))
    (source : lists.Formed src others)
    (front : (dst :: before).IsChain lists.Linked)
    (back : (after ++ [dst]).IsChain lists.Linked)
    (leads : lists.next (before.getLast?.getD dst) = node ∨
      lists.next (before.getLast?.getD dst) = after.head?.getD dst)
    (nexts : ∀ entry, entry ≠ before.getLast?.getD dst → entry ≠ node →
      changed.next entry = lists.next entry)
    (prevs : ∀ entry, entry ≠ after.head?.getD dst → entry ≠ node →
      changed.prev entry = lists.prev entry)
    (sizes : ∀ head, head ≠ dst → changed.size head = lists.size head)
    (links : (before.getLast?.getD dst :: middle ++
      [after.head?.getD dst]).IsChain changed.Linked)
    (sized : (changed.size dst).toNat = (before ++ middle ++ after).length) :
    changed.Pair dst (before ++ middle ++ after) src others := by
  obtain ⟨before_ne, before_ne_head, after_ne, after_ne_head⟩ :=
    place_apart distinct
  have front : (dst :: before).IsChain changed.Linked := by
    apply linked_frame front
    · exact fun entry member other => nexts entry other (before_ne _ member)
    · exact fun entry member => prevs entry (before_ne_head _ member)
        (before_ne _ (.tail _ member))
    · rcases leads with leads | leads <;> rw [leads] <;> intro member
      · exact before_ne _ (.tail _ member) rfl
      · exact before_ne_head _ member rfl
  have back : (after ++ [dst]).IsChain changed.Linked := by
    apply linked_frame back
    · exact fun entry member other => nexts entry other (after_ne _ member)
    · exact fun entry member => prevs entry (after_ne_head _ member)
        (after_ne _ (mem_of_mem_tail member))
    · rcases leads with leads | leads <;> rw [leads] <;> intro member
      · exact after_ne _ (mem_of_mem_tail member) rfl
      · exact after_ne_head _ member rfl
  have inside : dst :: (before ++ middle ++ after) <+
      dst :: (before ++ node :: after) := by
    rw [append_assoc]
    exact ((part.append_right after).append_left before).cons_cons dst
  have away {entry : Node} (member : entry ∈ src :: others) :
      entry ≠ node ∧ entry ≠ before.getLast?.getD dst ∧
        entry ≠ after.head?.getD dst ∧ entry ≠ dst := by
    have last := place_mem dst before
    have first := head_mem dst after
    have outside := fun found => apart found member
    simp only [mem_cons, mem_append, not_mem_nil, or_false] at *
    refine ⟨?_, ?_, ?_, ?_⟩ <;> rintro rfl <;> tauto
  refine ⟨⟨distinct.sublist inside, ?_, sized⟩,
    source.frame (fun entry member => ?_)
      (sizes src (away mem_cons_self).2.2.2),
    fun entry member => apart (inside.subset member)⟩
  · have ring : dst :: (before ++ middle ++ after) ++ [dst] =
        (dst :: before).dropLast ++ before.getLast?.getD dst ::
          (middle ++ after.head?.getD dst :: (after ++ [dst]).tail) := by
      rw [cons_head?_tail (head?_place dst after),
        append_cons (dst :: before).dropLast,
        dropLast_append_getLast? _ getLast?_cons]
      simp
    rw [← dropLast_append_getLast? _ getLast?_cons] at front
    rw [← cons_head?_tail (head?_place dst after)] at back
    rw [ring, isChain_split]
    exact ⟨front, isChain_split.mpr ⟨links, back⟩⟩
  · obtain ⟨other, last, first, -⟩ := away member
    exact ⟨nexts entry last other, prevs entry first other⟩

variable [DecidableEq Node]

def setNext (node value : Node) (lists : DLists Node) : DLists Node :=
  { lists with next := update lists.next node value }

def setPrev (node value : Node) (lists : DLists Node) : DLists Node :=
  { lists with prev := update lists.prev node value }

def setSize (head : Node) (value : UInt32) (lists : DLists Node) :
    DLists Node :=
  { lists with size := update lists.size head value }

def headInit (head : Node) (lists : DLists Node) : DLists Node :=
  lists |>.setNext head head |>.setPrev head head |>.setSize head 0

def entryInit (entry : Node) (lists : DLists Node) : DLists Node :=
  lists |>.setNext entry entry |>.setPrev entry entry

def move (dst src : Node) (lists : DLists Node) : DLists Node :=
  let lists := lists.setNext dst (lists.next src)
  let lists := lists.setPrev dst (lists.prev src)
  let lists := lists.setPrev (lists.next src) dst
  let lists := lists.setNext (lists.prev src) dst
  let lists := lists.setSize dst (lists.size dst + lists.size src)
  lists.headInit src

def add (head node prev next : Node) (lists : DLists Node) : DLists Node :=
  let lists := lists.setNext node next
  let lists := lists.setPrev node prev
  let lists := lists.setPrev next node
  let lists := lists.setNext prev node
  lists.setSize head (lists.size head + 1)

/-- The node is given back. -/
def del (head node : Node) (lists : DLists Node) : DLists Node :=
  let lists := lists.setNext (lists.prev node) (lists.next node)
  let lists := lists.setPrev (lists.next node) (lists.prev node)
  let lists := lists.entryInit node
  lists.setSize head (lists.size head - 1)

def concat (first last prev next : Node) (lists : DLists Node) :
    DLists Node :=
  lists |>.setPrev first prev |>.setNext prev first
    |>.setNext last next |>.setPrev next last

def posConcat (pos src : Node) (lists : DLists Node) : DLists Node :=
  if lists.size src = 0 then lists
  else
    let lists := lists.concat pos (lists.next pos) (lists.prev src)
      (lists.next src)
    let lists := lists.headInit src
    lists.setSize src (lists.size src + 1)

theorem add_next (entry prev next : Node) :
    (lists.add head node prev next).next entry =
      if entry = prev then node else if entry = node then next
      else lists.next entry := by
  simp [add, setNext, setPrev, setSize, update_apply]

theorem add_prev (entry prev next : Node) :
    (lists.add head node prev next).prev entry =
      if entry = next then node else if entry = node then prev
      else lists.prev entry := by
  simp [add, setNext, setPrev, setSize, update_apply]

theorem add_size (other prev next : Node) :
    (lists.add head node prev next).size other =
      if other = head then lists.size head + 1 else lists.size other := by
  simp [add, setNext, setPrev, setSize, update_apply]

theorem add_pair (pair : lists.Pair dst (before ++ after) src others)
    (fresh : node ∉ dst :: (before ++ after)) (free : node ∉ src :: others) :
    (lists.add dst node (before.getLast?.getD dst)
        (after.head?.getD dst)).Pair dst (before ++ node :: after) src others ↔
      (before ++ after).length + 1 < 2 ^ 32 := by
  have last := place_mem dst before
  have first := head_mem dst after
  have counted := pair.target.sized
  obtain ⟨front, back, link⟩ := linked_split.mp pair.target.linked
  constructor
  · intro made
    have grown := made.target.sized
    rw [add_size, if_pos rfl, UInt32.toNat_add, counted] at grown
    simp at *
    omega
  intro small
  have distinct : (dst :: (before ++ node :: after)).Nodup := by
    have := pair.target.distinct
    simp only [nodup_cons, nodup_middle, mem_append, mem_cons] at *
    tauto
  have apart : (dst :: (before ++ node :: after)).Disjoint (src :: others) := by
    have := pair.apart
    simp only [disjoint_cons_left, disjoint_append_left] at *
    tauto
  have inside : before.getLast?.getD dst ≠ node ∧ after.head?.getD dst ≠ node :=
    ⟨(place_apart distinct).1 _ last, (place_apart distinct).2.2.1 _ first⟩
  have made := @relink _ lists (lists.add dst node (before.getLast?.getD dst)
    (after.head?.getD dst)) dst src node others before after [node]
  simp only [append_assoc, singleton_append] at made
  refine made (.refl _) distinct apart pair.source front back
    (.inr link.1) ?_ ?_ ?_ ?_ ?_
  · exact fun entry other off => by rw [add_next, if_neg other, if_neg off]
  · exact fun entry other off => by rw [add_prev, if_neg other, if_neg off]
  · exact fun other off => by rw [add_size, if_neg off]
  · simp [Linked, add_next, add_prev, inside.1.symm, inside.2.symm]
  · rw [add_size, if_pos rfl, UInt32.toNat_add, counted]
    simp at *
    omega

theorem del_pair (pair : lists.Pair dst (before ++ node :: after) src others) :
    (lists.del dst node).Pair dst (before ++ after) src others := by
  have distinct := pair.target.distinct
  have counted := pair.target.sized
  obtain ⟨front, rest, link⟩ := linked_split.mp pair.target.linked
  obtain ⟨out, back⟩ := isChain_cons.mp rest
  have leaves : lists.Linked node (after.head?.getD dst) :=
    out _ (head?_place dst after)
  have enters : lists.Linked (before.getLast?.getD dst) node := link
  have apart := place_apart distinct
  have last := apart.1 _ (place_mem dst before)
  have first := apart.2.2.1 _ (head_mem dst after)
  have made := @relink _ lists (lists.del dst node) dst src node others before
    after []
  simp only [append_nil] at made
  refine made (nil_sublist _) distinct pair.apart pair.source front back
    (.inl enters.1) ?_ ?_ ?_ ?_ ?_
  all_goals simp only [del, setNext, setPrev, setSize, entryInit, enters.2,
    leaves.1, update_of_ne last.symm]
  · exact fun entry other off => by simp [update_of_ne, other, off]
  · exact fun entry other off => by simp [update_of_ne, other, off]
  · exact fun other off => by simp [update_of_ne, off]
  · simp [Linked, update_of_ne, last, first]
  · have small := (lists.size dst).toNat_lt
    rw [update_self, UInt32.toNat_sub, counted]
    simp only [length_append, length_cons, UInt32.toNat_one] at *
    omega

theorem move_pair (pair : lists.Pair dst [] src others) :
    (lists.move dst src).Pair dst others src [] ↔ others ≠ [] := by
  have differ : dst ≠ src := fun same => pair.apart mem_cons_self (by simp [same])
  obtain ⟨-, -, (out : lists.Linked src (others.head?.getD src))⟩ :=
    (@linked_split _ lists src [] others).mp pair.source.linked
  obtain ⟨front, -, (back : lists.Linked (others.getLast?.getD src) src)⟩ :=
    (@linked_split _ lists src others []).mp (by simpa using pair.source.linked)
  constructor
  · rintro made rfl
    have closed := made.target.linked
    simp [Linked, move, headInit, setNext, setPrev, setSize, differ,
      differ.symm, out.1, back.2] at closed
  intro some
  obtain ⟨distinct, -, counted⟩ := pair.source
  have absent : dst ∉ others := fun member =>
    pair.apart mem_cons_self (.tail _ member)
  have off : src ∉ others := (nodup_cons.mp distinct).1
  have empty : lists.size dst = 0 := UInt32.toNat_inj.mp pair.target.sized
  cases others with
  | nil => contradiction
  | cons first rest =>
    have member := place_mem first rest
    have place : (first :: rest).getLast? =
        Option.some (rest.getLast?.getD first) :=
      getLast?_cons
    generalize rest.getLast?.getD first = last at place member
    simp only [place, Option.getD_some, head?_cons] at out back
    have first_ne : first ≠ src ∧ first ≠ dst := by grind
    have last_ne : last ≠ src ∧ last ≠ dst := by grind
    have nexts : (lists.move dst src).next =
        update (update (update lists.next dst first) last dst) src src := by
      simp [move, headInit, setNext, setPrev, setSize, out.1, back.2,
        differ.symm, first_ne.1.symm]
    have prevs : (lists.move dst src).prev =
        update (update (update lists.prev dst last) first dst) src src := by
      simp [move, headInit, setNext, setPrev, setSize, out.1, back.2,
        differ.symm]
    have sizes : (lists.move dst src).size =
        update (update lists.size dst (lists.size src)) src 0 := by
      simp [move, headInit, setNext, setPrev, setSize, empty]
    have chain : (first :: rest).IsChain (lists.move dst src).Linked := by
      refine @linked_frame _ lists _ last _ front.tail
        (fun entry found other => ?_) (fun entry found => ?_) fun found => ?_
      · rw [nexts]
        grind
      · rw [prevs]
        grind
      · rw [back.1] at found
        exact off (mem_of_mem_tail found)
    refine ⟨⟨by grind, ?_, ?_⟩, ⟨by simp, by simp [Linked, nexts, prevs],
      by simp [sizes]⟩, by simpa [differ.symm] using off⟩
    · have ring := (@linked_split _ (lists.move dst src) dst
        (first :: rest) []).mpr
      rw [append_nil] at ring
      refine ring ⟨isChain_cons.mpr ⟨?_, chain⟩, by simp, ?_⟩
      · rintro _ ⟨⟩
        simp [Linked, nexts, prevs, differ, first_ne, last_ne.2.symm]
      · simp [place, Linked, nexts, prevs, differ, last_ne, first_ne.2.symm]
    · simpa [sizes, update_of_ne, differ] using counted

theorem posConcat_pair (pair : lists.Pair dst (before ++ after) src others)
    (pos : Node) :
    (lists.posConcat pos src).Pair dst (before ++ others ++ after) src [] ↔
      others = [] := by
  have counted := pair.source.sized
  constructor
  · intro made
    have left := made.source.sized
    by_contra some
    have : lists.size src ≠ 0 := by
      intro zero
      simp [zero, eq_comm, some] at counted
    simp [posConcat, this, headInit, setSize, setNext, setPrev] at left
  · rintro rfl
    have zero : lists.size src = 0 := UInt32.toNat_inj.mp counted
    simpa [posConcat, zero] using pair

end DLists

variable [DecidableEq Node]

/-- A call on the list at `dst`, with its place given by the nodes before and
after it. -/
inductive DListCall (Node : Type*) where
  | add (before : List Node) (node : Node) (after : List Node)
  | del (before : List Node) (node : Node) (after : List Node)
  | move
  | posConcat (before after : List Node)

namespace DListCall

def run (dst src : Node) (lists : DLists Node) : DListCall Node → DLists Node
  | .add before node after =>
    lists.add dst node (before.getLast?.getD dst) (after.head?.getD dst)
  | .del _ node _ => lists.del dst node
  | .move => lists.move dst src
  | .posConcat before _ => lists.posConcat (before.getLast?.getD dst) src

def Fits (dst : Node) (into : List Node) (src : Node) (others : List Node) :
    DListCall Node → Prop
  | .add before node after =>
    into = before ++ after ∧ node ∉ dst :: into ∧ node ∉ src :: others
  | .del before node after => into = before ++ node :: after
  | .move => into = []
  | .posConcat before after => into = before ++ after

/-- What the lists at `dst` and `src` should hold. -/
def contents (others : List Node) : DListCall Node → List Node × List Node
  | .add before node after => (before ++ node :: after, others)
  | .del before _ after => (before ++ after, others)
  | .move => (others, [])
  | .posConcat before after => (before ++ others ++ after, [])

/-- The counter does not wrap, and the source of a move is not empty; a list is
concatenated only where it is. -/
def Sound (into others : List Node) : DListCall Node → Prop
  | .add .. => into.length + 1 < 2 ^ 32
  | .del .. => True
  | .move => others ≠ []
  | .posConcat .. => others = []

end DListCall

/-- The heads `0` and `1`, both empty. -/
def DLists.emptyHeads : DLists (Fin 3) where
  next := id
  prev := id
  size _ := 0

theorem DLists.emptyHeads_pair : emptyHeads.Pair 0 [] 1 [] where
  target := ⟨by decide, by simp [Linked, emptyHeads], rfl⟩
  source := ⟨by decide, by simp [Linked, emptyHeads], rfl⟩
  apart := by simp

theorem DListCall.run_pair_iff {lists : DLists Node} {dst src : Node}
    {into others : List Node} (pair : lists.Pair dst into src others)
    (call : DListCall Node) (fits : call.Fits dst into src others) :
    (call.run dst src lists).Pair dst (call.contents others).1 src
      (call.contents others).2 ↔ call.Sound into others := by
  cases call with
  | add before node after =>
    obtain ⟨rfl, fresh, free⟩ := fits
    exact DLists.add_pair pair fresh free
  | del before node after =>
    subst fits
    exact iff_of_true (DLists.del_pair pair) trivial
  | move =>
    subst fits
    exact DLists.move_pair pair
  | posConcat before after =>
    subst fits
    exact DLists.posConcat_pair pair _

theorem DListCall.run_add_empty :
    (DLists.emptyHeads.add 0 2 0 0).Pair 0 [2] 1 [] :=
  (run_pair_iff DLists.emptyHeads_pair (.add [] 2 [])
    ⟨rfl, by decide, by decide⟩).mpr (by simp [Sound])

theorem DLists.move_empty_breaks :
    emptyHeads.Pair 0 [] 1 [] ∧ ¬ (emptyHeads.move 0 1).Pair 0 [] 1 [] :=
  ⟨emptyHeads_pair, fun made => (move_pair emptyHeads_pair).mp made rfl⟩

end NearLink.Sdf
