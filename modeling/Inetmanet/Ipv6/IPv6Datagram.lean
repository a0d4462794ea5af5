import Inetmanet.Simulation

/-!
# IPv6 datagrams and their extension headers

`IPv6Datagram.cc`: the chain of extension headers is kept in the order that the
standard recommends, which is what the calculated lengths rest on.
-/
namespace Inet.Ipv6

open List

/-- The unspecified address is 0. -/
abbrev IPv6Address := BitVec 128

/-- `ff02:0:0:0:0:1:ff00::/104` -/
def isSolicitedNodeMulticastAddress (address : IPv6Address) : Bool :=
  address >>> 24 == 0xff0200000000000000000001ff

/-- What `getExtensionType()` says. -/
inductive IPProtocolId where
  | IP_PROT_IPv6EXT_HOP
  | IP_PROT_IPv6EXT_DEST
  | IP_PROT_IPv6EXT_ROUTING
  | IP_PROT_IPv6EXT_FRAGMENT
  | IP_PROT_IPv6EXT_AUTH
  | IP_PROT_IPv6EXT_ESP
  | IP_PROT_IPv6EXT_MOB
  | other (id : Int)
  deriving DecidableEq, Repr

open IPProtocolId

structure IPv6FragmentHeader where
  identification : BitVec 32
  /-- In bytes, of type `ushort`. -/
  fragmentOffset : Nat
  moreFragments : Bool
  deriving DecidableEq, Repr

def IPv6_FRAGMENT_HEADER_LENGTH : Nat := 8

inductive IPv6ExtensionHeader where
  | fragment (fh : IPv6FragmentHeader)
  /-- Any other class. -/
  | plain (extensionType : IPProtocolId) (byteLength : Nat)
  deriving DecidableEq, Repr

namespace IPv6ExtensionHeader

def getExtensionType : IPv6ExtensionHeader → IPProtocolId
  | .fragment _ => IP_PROT_IPv6EXT_FRAGMENT
  | .plain extensionType _ => extensionType

def getByteLength : IPv6ExtensionHeader → Nat
  | .fragment _ => IPv6_FRAGMENT_HEADER_LENGTH
  | .plain _ byteLength => byteLength

/-- `dynamic_cast<IPv6FragmentHeader *>` -/
def asFragmentHeader : IPv6ExtensionHeader → Option IPv6FragmentHeader
  | .fragment fh => some fh
  | .plain _ _ => none

end IPv6ExtensionHeader

/-- The second destination options header is put at place 6. -/
def getExtensionHeaderOrder (eh : IPv6ExtensionHeader) : Int :=
  match eh.getExtensionType with
  | IP_PROT_IPv6EXT_HOP => 0
  | IP_PROT_IPv6EXT_DEST => 1
  | IP_PROT_IPv6EXT_ROUTING => 2
  | IP_PROT_IPv6EXT_FRAGMENT => 3
  | IP_PROT_IPv6EXT_AUTH => 4
  | IP_PROT_IPv6EXT_ESP => 5
  | IP_PROT_IPv6EXT_MOB => 7
  | other _ => -1

/-- The loop of `addExtensionHeader` over the headers from one on. -/
def insertHeader (eh : IPv6ExtensionHeader) : Int → List IPv6ExtensionHeader → Sim (List IPv6ExtensionHeader)
  | _, [] => .ok [eh]
  | thisOrder, that :: extensionHeaders =>
    let thatOrder := getExtensionHeaderOrder that
    if thisOrder ≠ -1 ∧ thisOrder < thatOrder then .ok (eh :: that :: extensionHeaders)
    else if thisOrder = thatOrder then
      if thisOrder = 1 then (insertHeader eh 6 extensionHeaders).map (that :: ·)
      else if thisOrder ≠ -1 then .error (.runtime "addExtensionHeader() duplicate extension header: %d")
      else (insertHeader eh thisOrder extensionHeaders).map (that :: ·)
    else (insertHeader eh thisOrder extensionHeaders).map (that :: ·)

structure IPv6Datagram where
  byteLength : Nat
  srcAddress : IPv6Address
  destAddress : IPv6Address
  hopLimit : Int
  extensionHeaders : List IPv6ExtensionHeader
  encapsulatedPacket : Option CPacket
  deriving DecidableEq, Repr

def headersByteLength (l : List IPv6ExtensionHeader) : Nat := (l.map IPv6ExtensionHeader.getByteLength).sum

/-- The types that `calculateUnfragmentableHeaderByteLength` looks for, from the end. -/
def isUnfragmentable (eh : IPv6ExtensionHeader) : Bool :=
  eh.getExtensionType = IP_PROT_IPv6EXT_ROUTING || eh.getExtensionType = IP_PROT_IPv6EXT_HOP

def isFragmentHeader (eh : IPv6ExtensionHeader) : Bool := eh.getExtensionType = IP_PROT_IPv6EXT_FRAGMENT

/-- The loop of `calculateFragmentLength`. -/
def fragmentLengthFrom : Int → List IPv6ExtensionHeader → Sim Int
  | _, [] => .error (.assertion "IPv6Datagram::calculateFragmentLength() called on non-fragment datagram")
  | len, eh :: extensionHeaders =>
    if isFragmentHeader eh then .ok (len - eh.getByteLength)
    else fragmentLengthFrom (len - eh.getByteLength) extensionHeaders

namespace IPv6Datagram

def addExtensionHeader (d : IPv6Datagram) (eh : IPv6ExtensionHeader) : Sim IPv6Datagram :=
  (insertHeader eh (getExtensionHeaderOrder eh) d.extensionHeaders).map ({ d with extensionHeaders := · })

/-- Every header is added again, to a datagram that has none. -/
def dup (d : IPv6Datagram) : Sim IPv6Datagram :=
  d.extensionHeaders.foldlM addExtensionHeader { d with extensionHeaders := [] }

def calculateHeaderByteLength (d : IPv6Datagram) : Nat := 40 + headersByteLength d.extensionHeaders

def calculateUnfragmentableHeaderByteLength (d : IPv6Datagram) : Nat :=
  40 + headersByteLength (d.extensionHeaders.rdropWhile fun eh => !isUnfragmentable eh)

def calculateFragmentLength (d : IPv6Datagram) : Sim Int :=
  fragmentLengthFrom (d.byteLength - 40) d.extensionHeaders

/-- The fragment header that `findExtensionHeaderByType` finds. -/
def fragmentHeader (d : IPv6Datagram) : Option IPv6FragmentHeader :=
  (d.extensionHeaders.find? isFragmentHeader).bind IPv6ExtensionHeader.asFragmentHeader

/-- `removeExtensionHeader(IP_PROT_IPv6EXT_FRAGMENT)` -/
def removeFragmentHeader (d : IPv6Datagram) : IPv6Datagram :=
  { d with extensionHeaders := d.extensionHeaders.eraseP isFragmentHeader }

/-- `cPacket::encapsulate`, of a packet that may be missing; the length is set afterwards. -/
def encapsulate (d : IPv6Datagram) (packet : Option CPacket) : IPv6Datagram :=
  { d with byteLength := d.byteLength + (packet.map CPacket.byteLength).getD 0, encapsulatedPacket := packet }

/-- `cPacket::decapsulate` -/
def decapsulate (d : IPv6Datagram) : Sim (Option CPacket × IPv6Datagram) :=
  match d.encapsulatedPacket with
  | none => .ok (none, d)
  | some packet =>
    if d.byteLength < packet.byteLength then
      .error (.runtime "decapsulate(): packet length is smaller than encapsulated packet")
    else .ok (some packet, { d with byteLength := d.byteLength - packet.byteLength, encapsulatedPacket := none })

end IPv6Datagram

section Insert

variable {eh x : IPv6ExtensionHeader} {o : Int} {l l' p s : List IPv6ExtensionHeader}

/-- The order of a header after it has been compared with another one. -/
def orderPast (o : Int) (x : IPv6ExtensionHeader) : Int :=
  if o = 1 ∧ getExtensionHeaderOrder x = 1 then 6 else o

/-- The order of a header after it has been compared with all of a list. -/
def orderAfter (o : Int) (l : List IPv6ExtensionHeader) : Int := l.foldl orderPast o

/-- A header of this order goes behind `x`. -/
def GoesBehind (o : Int) (x : IPv6ExtensionHeader) : Prop :=
  (o = -1 ∨ getExtensionHeaderOrder x ≤ o) ∧ (o = getExtensionHeaderOrder x → o = 1 ∨ o = -1)

/-- It goes behind everything in the list. -/
def Passes : Int → List IPv6ExtensionHeader → Prop
  | _, [] => True
  | o, x :: l => GoesBehind o x ∧ Passes (orderPast o x) l

theorem passes_append : Passes o (p ++ s) ↔ Passes o p ∧ Passes (orderAfter o p) s := by
  induction p generalizing o with
  | nil => simp [Passes, orderAfter]
  | cons x p ih =>
    simp only [cons_append, Passes, ih, and_assoc]
    rfl

theorem insertHeader_cons (h : GoesBehind o x) :
    insertHeader eh o (x :: l) = (insertHeader eh (orderPast o x) l).map (x :: ·) := by
  obtain ⟨hle, heq⟩ := h
  have hstay : ¬ (o ≠ -1 ∧ o < getExtensionHeaderOrder x) := by omega
  rw [insertHeader, if_neg hstay]
  by_cases hsame : o = getExtensionHeaderOrder x
  · rw [if_pos hsame]
    by_cases hone : o = 1
    · rw [if_pos hone, orderPast, if_pos ⟨hone, hsame ▸ hone⟩]
    · have hminus : o = -1 := (heq hsame).resolve_left hone
      rw [if_neg hone, if_neg (fun h => h hminus), orderPast, if_neg (fun h => hone h.1)]
  · rw [if_neg hsame, orderPast, if_neg (fun h => hsame (h.1.trans h.2.symm))]

/-- A header that goes behind all others is put at the end. -/
theorem insertHeader_passes (h : Passes o l) : insertHeader eh o l = .ok (l ++ [eh]) := by
  induction l generalizing o with
  | nil => rfl
  | cons x l ih =>
    rw [insertHeader_cons h.1, ih h.2]
    rfl

/-- Where a header is put that can be added. -/
theorem insertHeader_ok (h : insertHeader eh o l = .ok l') :
    ∃ p s, l = p ++ s ∧ l' = p ++ eh :: s ∧ Passes o p ∧
      ∀ x t, s = x :: t → orderAfter o p ≠ -1 ∧ orderAfter o p < getExtensionHeaderOrder x := by
  induction l generalizing o l' with
  | nil => exact ⟨[], [], rfl, (Except.ok.inj h).symm, trivial, fun x t hx => by cases hx⟩
  | cons x l ih =>
    by_cases hstop : o ≠ -1 ∧ o < getExtensionHeaderOrder x
    · rw [insertHeader, if_pos hstop] at h
      refine ⟨[], x :: l, rfl, (Except.ok.inj h).symm, trivial, fun y t hy => ?_⟩
      rw [← (cons.inj hy).1]
      exact hstop
    · have hbehind : GoesBehind o x := by
        refine ⟨by omega, fun hsame => ?_⟩
        by_contra hne
        rw [insertHeader, if_neg hstop, if_pos hsame, if_neg (by omega), if_pos (by omega)] at h
        cases h
      rw [insertHeader_cons hbehind] at h
      cases hrest : insertHeader eh (orderPast o x) l with
      | error e =>
        rw [hrest] at h
        cases h
      | ok m =>
        rw [hrest] at h
        obtain ⟨p, s, hl, hm, hpass, hnext⟩ := ih hrest
        refine ⟨x :: p, s, by rw [hl]; rfl, ?_, ⟨hbehind, hpass⟩, hnext⟩
        rw [← Except.ok.inj h, hm]
        rfl

end Insert

/-- The chains of headers that `addExtensionHeader` makes. -/
inductive Built : List IPv6ExtensionHeader → Prop where
  | nil : Built []
  | add {l l' : List IPv6ExtensionHeader} {eh : IPv6ExtensionHeader} : Built l →
      insertHeader eh (getExtensionHeaderOrder eh) l = .ok l' → Built l'

/-- Every header is where it would be put among those before it. -/
def Chain (l : List IPv6ExtensionHeader) : Prop :=
  ∀ p h s, l = p ++ h :: s → Passes (getExtensionHeaderOrder h) p

section Chain

variable {eh x : IPv6ExtensionHeader} {o : Int} {l l' p s : List IPv6ExtensionHeader}

theorem orderAfter_ge (o : Int) (l : List IPv6ExtensionHeader) : o ≤ orderAfter o l := by
  induction l generalizing o with
  | nil => exact Int.le_refl o
  | cons x l ih =>
    have hstep : o ≤ orderPast o x := by
      unfold orderPast
      split <;> omega
    exact Int.le_trans hstep (ih _)

/-- A header may be put in front of one that comes after it by its order. -/
theorem passes_insert (hlt : getExtensionHeaderOrder eh < getExtensionHeaderOrder x)
    (h : Passes o (p ++ x :: s)) : Passes o (p ++ eh :: x :: s) := by
  rw [passes_append] at h ⊢
  obtain ⟨hp, hx, hs⟩ := h
  have hne : orderAfter o p ≠ getExtensionHeaderOrder eh ∨ orderAfter o p = -1 := by
    have := hx.1
    omega
  have hpast : orderPast (orderAfter o p) eh = orderAfter o p := by
    refine if_neg fun hone => ?_
    omega
  refine ⟨hp, ⟨?_, fun heq => .inr (hne.resolve_left (fun hne => hne heq))⟩, ?_⟩
  · have := hx.1
    omega
  · rw [hpast]
    exact ⟨hx, hs⟩

/-- A header that is in front of others is in front of those that come after it. -/
theorem Chain.insert (h : Chain (p ++ s)) (hp : Passes (getExtensionHeaderOrder eh) p)
    (hs : ∀ x t, s = x :: t → getExtensionHeaderOrder eh < getExtensionHeaderOrder x) :
    Chain (p ++ eh :: s) := by
  intro q y t heq
  rcases append_eq_append_iff.mp heq with ⟨m, hq, hm⟩ | ⟨m, hpq, hm⟩
  · cases m with
    | nil =>
      -- the new header itself
      simp only [nil_append, cons.injEq] at hm
      rw [hq, append_nil, ← hm.1]
      exact hp
    | cons z m =>
      simp only [cons_append, cons.injEq] at hm
      obtain ⟨rfl, hs'⟩ := hm
      rw [hq]
      cases m with
      | nil =>
        -- the header right behind it
        have hlt := hs y t hs'
        have hpass := h p y t (by rw [hs']; rfl)
        rw [passes_append]
        refine ⟨hpass, ⟨.inr ?_, fun heq' => ?_⟩, trivial⟩
        · have := orderAfter_ge (getExtensionHeaderOrder y) p
          omega
        · have := orderAfter_ge (getExtensionHeaderOrder y) p
          omega
      | cons x m =>
        have hlt := hs x (m ++ y :: t) hs'
        refine passes_insert hlt (h (p ++ x :: m) y t ?_)
        rw [hs']
        simp
  · cases m with
    | nil =>
      simp only [nil_append, cons.injEq] at hm
      rw [append_nil] at hpq
      rw [← hpq, hm.1]
      exact hp
    | cons z m =>
      -- a header in front of it
      simp only [cons_append, cons.injEq] at hm
      refine h q y (m ++ s) ?_
      rw [hpq, ← hm.1]
      simp

theorem Built.chain (h : Built l) : Chain l := by
  induction h with
  | nil =>
    intro p h s heq
    simp at heq
  | @add _ _ eh _ hadd ih =>
    obtain ⟨p, s, hl, hl', hpass, hnext⟩ := insertHeader_ok hadd
    rw [hl] at ih
    rw [hl']
    refine ih.insert hpass fun x t hx => ?_
    have := orderAfter_ge (getExtensionHeaderOrder eh) p
    exact Int.lt_of_le_of_lt this (hnext x t hx).2

/-- A copy has the headers in the same order. -/
theorem dup_eq (d : IPv6Datagram) (h : Chain d.extensionHeaders) : d.dup = .ok d := by
  have hfold : ∀ l p : List IPv6ExtensionHeader, Chain (p ++ l) →
      l.foldlM IPv6Datagram.addExtensionHeader { d with extensionHeaders := p } =
        .ok { d with extensionHeaders := p ++ l } := by
    intro l
    induction l with
    | nil =>
      intro p _
      rw [append_nil]
      rfl
    | cons x l ih =>
      intro p hchain
      have hadd : IPv6Datagram.addExtensionHeader { d with extensionHeaders := p } x =
          .ok { d with extensionHeaders := p ++ [x] } := by
        rw [IPv6Datagram.addExtensionHeader, insertHeader_passes (hchain p x l rfl)]
        rfl
      have hrest : Chain ((p ++ [x]) ++ l) := by simpa using hchain
      have hall := ih _ hrest
      rw [append_assoc] at hall
      rw [foldlM_cons, hadd]
      exact hall
  have hnil := hfold d.extensionHeaders [] h
  rwa [nil_append] at hnil

/-- Behind a header that stays behind the fragment header, none comes that would not. -/
theorem Chain.dropWhile (h : Chain l) (hx : x ∈ l.dropWhile fun eh => getExtensionHeaderOrder eh ≤ 3) :
    isUnfragmentable x = false ∧ isFragmentHeader x = false := by
  have hlate : getExtensionHeaderOrder x = 1 ∨ getExtensionHeaderOrder x = -1 ∨ 3 < getExtensionHeaderOrder x := by
    generalize hdrop : (l.dropWhile fun eh => getExtensionHeaderOrder eh ≤ 3) = m at hx
    have hl := takeWhile_append_dropWhile (p := fun eh => decide (getExtensionHeaderOrder eh ≤ 3)) (l := l)
    cases m with
    | nil => cases hx
    | cons y t =>
      have hy : 3 < getExtensionHeaderOrder y := by
        have := head?_dropWhile_not (fun eh => decide (getExtensionHeaderOrder eh ≤ 3)) l
        rw [hdrop] at this
        simpa using this
      rw [hdrop] at hl
      cases mem_cons.mp hx with
      | inl heq => exact .inr (.inr (heq ▸ hy))
      | inr hmem =>
        obtain ⟨t₁, t₂, ht⟩ := append_of_mem hmem
        have hpass := h (l.takeWhile (fun eh => getExtensionHeaderOrder eh ≤ 3) ++ y :: t₁) x t₂
          (by conv_lhs => rw [← hl, ht]
              simp)
        rw [passes_append] at hpass
        by_cases hone : getExtensionHeaderOrder x = 1
        · exact .inl hone
        · have hafter : ∀ p, orderAfter (getExtensionHeaderOrder x) p = getExtensionHeaderOrder x := by
            intro p
            induction p with
            | nil => rfl
            | cons z p ih =>
              have hpast : orderPast (getExtensionHeaderOrder x) z = getExtensionHeaderOrder x :=
                if_neg fun h => hone h.1
              rw [orderAfter, foldl_cons, hpast]
              exact ih
          rw [hafter] at hpass
          have := hpass.2.1.1
          omega
  cases x with
  | fragment fh => simp [getExtensionHeaderOrder, IPv6ExtensionHeader.getExtensionType] at hlate
  | plain type length =>
    cases type <;> simp [getExtensionHeaderOrder, IPv6ExtensionHeader.getExtensionType, isUnfragmentable,
      isFragmentHeader] at hlate ⊢

end Chain

section FragmentHeader

variable {d : IPv6Datagram} {l p s : List IPv6ExtensionHeader} (fh : IPv6FragmentHeader)

/-- What the fragment header is put behind. -/
def aheadOfFragmentHeader (l : List IPv6ExtensionHeader) : List IPv6ExtensionHeader :=
  l.takeWhile fun eh => getExtensionHeaderOrder eh ≤ 3

/-- And in front of. -/
def behindFragmentHeader (l : List IPv6ExtensionHeader) : List IPv6ExtensionHeader :=
  l.dropWhile fun eh => getExtensionHeaderOrder eh ≤ 3

theorem ahead_append_behind (l : List IPv6ExtensionHeader) :
    aheadOfFragmentHeader l ++ behindFragmentHeader l = l := takeWhile_append_dropWhile

/-- There must not be one yet. -/
theorem insertFragmentHeader (l : List IPv6ExtensionHeader) :
    insertHeader (.fragment fh) 3 l =
      if (aheadOfFragmentHeader l).any isFragmentHeader then
        .error (.runtime "addExtensionHeader() duplicate extension header: %d")
      else .ok (aheadOfFragmentHeader l ++ .fragment fh :: behindFragmentHeader l) := by
  induction l with
  | nil => rfl
  | cons x l ih =>
    by_cases hle : getExtensionHeaderOrder x ≤ 3
    · have hahead : aheadOfFragmentHeader (x :: l) = x :: aheadOfFragmentHeader l := by
        simp [aheadOfFragmentHeader, hle]
      have hbehind : behindFragmentHeader (x :: l) = behindFragmentHeader l := by
        simp [behindFragmentHeader, hle]
      rw [insertHeader, if_neg (by omega), hahead, hbehind, any_cons]
      by_cases hthree : (3 : Int) = getExtensionHeaderOrder x
      · have hfragment : isFragmentHeader x = true := by
          cases x with
          | fragment fh => rfl
          | plain type length => cases type <;>
              simp [getExtensionHeaderOrder, IPv6ExtensionHeader.getExtensionType, isFragmentHeader] at hthree ⊢
        rw [if_pos hthree, if_neg (by omega), if_pos (by omega), hfragment]
        rfl
      · have hfragment : isFragmentHeader x = false := by
          cases x with
          | fragment fh => exact absurd rfl hthree
          | plain type length => cases type <;>
              simp [getExtensionHeaderOrder, IPv6ExtensionHeader.getExtensionType, isFragmentHeader] at hthree ⊢
        rw [if_neg hthree, ih, hfragment, Bool.false_or]
        split <;> rfl
    · have hahead : aheadOfFragmentHeader (x :: l) = [] := by simp [aheadOfFragmentHeader, hle]
      have hbehind : behindFragmentHeader (x :: l) = x :: l := by simp [behindFragmentHeader, hle]
      rw [insertHeader, if_pos (by omega), hahead, hbehind]
      rfl

theorem any_ahead_iff (h : Chain l) :
    (aheadOfFragmentHeader l).any isFragmentHeader = l.any isFragmentHeader := by
  have hbehind : (behindFragmentHeader l).any isFragmentHeader = false := by
    rw [any_eq_false]
    intro x hx
    rw [(h.dropWhile hx).2]
    exact Bool.false_ne_true
  conv_rhs => rw [← ahead_append_behind l, any_append, hbehind, Bool.or_false]

section

variable (h : p.any isFragmentHeader = false)
include h

theorem fragmentLengthFrom_append (len : Int) :
    fragmentLengthFrom len (p ++ .fragment fh :: s) = .ok (len - headersByteLength p - IPv6_FRAGMENT_HEADER_LENGTH) := by
  induction p generalizing len with
  | nil => simp [fragmentLengthFrom, isFragmentHeader, IPv6ExtensionHeader.getExtensionType,
      IPv6ExtensionHeader.getByteLength, headersByteLength]
  | cons x p ih =>
    rw [any_cons, Bool.or_eq_false_iff] at h
    rw [cons_append, fragmentLengthFrom, if_neg (by rw [h.1]; exact Bool.false_ne_true), ih h.2]
    simp only [headersByteLength, map_cons, sum_cons, Int.natCast_add]
    congr 1
    omega

theorem find_fragmentHeader :
    (p ++ .fragment fh :: s).find? isFragmentHeader = some (.fragment fh) := by
  have hnone : p.find? isFragmentHeader = none := by
    rw [find?_eq_none]
    exact any_eq_false.mp h
  rw [find?_append, hnone]
  rfl

theorem eraseP_fragmentHeader :
    (p ++ .fragment fh :: s).eraseP isFragmentHeader = p ++ s := by
  rw [eraseP_append_right _ (any_eq_false.mp h)]
  rfl

end

end FragmentHeader

end Inet.Ipv6
