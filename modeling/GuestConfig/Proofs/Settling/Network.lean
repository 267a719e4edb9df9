import GuestConfig.Network.Interface
import GuestConfig.Proofs.Frame
import GuestConfig.Proofs.OptionList
import GuestConfig.Proofs.Wire.Settling

/-!
# Network interfaces that were planned are settled

A network interface is laid over the one that is there, and the result is written.  Not everything
about the result is written: a link that is up is not mentioned, nor is a limit of zero.  What is
read back is the interface without these, and laying the same interface over that gives the same
text.

## What is here

* `NetworkInterface.stored` — what is left of an interface when it was written and read.
* `NetworkInterface.decode_text` — **an interface reads back as what is left of it.**
* `NetworkInterface.text_laidOver_stored` — laying an interface over the outcome changes nothing.
* `NetworkInterface.settles` — **the interfaces of a guest are settled**, and
  `NetworkInterface.isSome_get?_of_plan_eq_nil`: there are those that are asked for.
-/

set_option autoImplicit false

namespace GuestConfig

open OptionList (get?_append get?_flag get?_nil get?_optional get?_pair get?_positional
  isCleanValue_of_isWord isClean_append isClean_flag isClean_optional isClean_optional_map
  isClean_pair isClean_positional parse_text_of_isClean whenSet)
open Text (all_of_splitOn isWord isWordChar isWordChar_of_isAlphanum isWordChar_of_isHexDigit
  isWord_formatDecimal isWord_intercalate isWord_name isWord_of_all isWord_wordText splitOn trim)

/-! ## Words -/

theorem isWord_bridgeName (bridge : BridgeName) : isWord bridge.text = true := by
  have h := bridge.passes
  simp only [isBridgeName, Bool.and_eq_true] at h
  refine isWord_of_all h.2 fun c hc ↦ ?_
  simp only [Bool.or_eq_true, beq_iff_eq] at hc
  rcases hc with ((hc | rfl) | rfl) | rfl
  · exact isWordChar_of_isAlphanum hc
  · decide
  · decide
  · decide

theorem isWord_macAddress (mac : MacAddress) : isWord mac.text = true := by
  have hcolon : isWordChar ':' = true := by decide
  have h := mac.passes
  simp only [isMacAddress, Bool.and_eq_true] at h
  refine all_of_splitOn hcolon fun piece hpiece ↦ ?_
  have hhex := List.all_eq_true.1 h.2 piece hpiece
  rw [Text.isHexNumber, Bool.and_eq_true] at hhex
  exact List.all_eq_true.2 fun c hc ↦ isWordChar_of_isHexDigit (List.all_eq_true.1 hhex.2 c hc)

theorem isWord_networkModel (model : NetworkModel) : isWord (Token.name model) = true :=
  isWord_name (by decide) model

namespace NetworkInterface

theorem isWord_trunksText? {vlans : SortedSet UInt16} {s : String}
    (h : trunksText? vlans = some s) : isWord s = true := by
  unfold trunksText? at h
  split at h
  · cases h
  · obtain rfl := Option.some.inj h
    refine isWord_intercalate (by decide) fun piece hpiece ↦ ?_
    obtain ⟨vlan, -, rfl⟩ := List.mem_map.1 hpiece
    exact isWord_wordText vlan

/-! ## What is left of an interface -/

/-- What is left of an interface when it was written and read. -/
def stored (interface : NetworkInterface) : NetworkInterface where
  bridge := interface.bridge
  connected := (whenSet (interface.connected == some false)).map not
  firewall := whenSet (interface.firewall == some true)
  mac := interface.mac
  model := some interface.card
  mtu := interface.mtu.map fun mtu ↦ Mtu.ofCode mtu.code
  queues := interface.queues.filter (· ≠ 0)
  rateLimit := interface.rateLimit.filter (· ≠ 0)
  nativeVlan := interface.nativeVlan.filter (· ≠ 0)
  taggedVlans := interface.taggedVlans.filter (!·.isEmpty)

/-- The first entry of an interface: its card, with the address if there is one. -/
def cardEntries (interface : NetworkInterface) : List Entry :=
  match interface.mac with
  | some mac => OptionList.pair (Token.name interface.card) mac.text
  | none => OptionList.positional (Token.name interface.card)

/-- The other entries of an interface. -/
def optionEntries (interface : NetworkInterface) : List Entry :=
  OptionList.optional "bridge" (interface.bridge.map Checked.text) ++
    OptionList.flag "firewall" (interface.firewall == some true) ++
    OptionList.flag "link_down" (interface.connected == some false) ++
    OptionList.optional "mtu" (interface.mtu.map fun mtu ↦ Word.text mtu.code) ++
    OptionList.optional "queues" ((interface.queues.filter (· ≠ 0)).map Word.text) ++
    OptionList.optional "rate" ((interface.rateLimit.filter (· ≠ 0)).map fun n ↦
      formatDecimal n.toNat ratePlaces) ++
    OptionList.optional "tag" ((interface.nativeVlan.filter (· ≠ 0)).map Word.text) ++
    OptionList.optional "trunks" (interface.taggedVlans.bind trunksText?)

theorem entries_eq (interface : NetworkInterface) :
    interface.entries = interface.cardEntries ++ interface.optionEntries := by
  simp only [entries, optionEntries, List.append_assoc]
  rfl

theorem isClean_entries (interface : NetworkInterface) :
    OptionList.IsClean interface.entries := by
  have hword {α : Type} [Word α] (name : String) (hname : isWord name = true) (value : Option α) :
      OptionList.IsClean (OptionList.optional name (value.map Word.text)) :=
    isClean_optional_map hname value isWord_wordText
  have hcard : OptionList.IsClean interface.cardEntries := by
    have hname := isWord_networkModel interface.card
    unfold cardEntries
    cases interface.mac with
    | some mac => exact isClean_pair hname (isCleanValue_of_isWord (isWord_macAddress mac))
    | none =>
      refine isClean_positional (isCleanValue_of_isWord hname)
        (Text.equals_not_mem_of_isWord hname) ?_
      cases interface.card <;> decide
  simp only [entries, isClean_append]
  exact ⟨⟨⟨⟨⟨⟨⟨⟨hcard, isClean_optional_map (by decide) _ isWord_bridgeName⟩,
    isClean_flag (by decide) _⟩, isClean_flag (by decide) _⟩,
    isClean_optional_map (by decide) _ fun _ ↦ isWord_wordText _⟩,
    hword _ (by decide) _⟩,
    isClean_optional_map (by decide) _ fun _ ↦ isWord_formatDecimal _ _⟩,
    hword _ (by decide) _⟩,
    isClean_optional (by decide) fun s hs ↦ by
      obtain ⟨vlans, -, hvlans⟩ := Option.bind_eq_some_iff.1 hs
      exact isCleanValue_of_isWord (isWord_trunksText? hvlans)⟩

/-! ## Reading -/

theorem trunks?_trunksText? {vlans : SortedSet UInt16} {s : String}
    (h : trunksText? vlans = some s) : trunks? s = some vlans := by
  unfold trunksText? at h
  split at h
  · cases h
  · next hempty =>
    obtain rfl := Option.some.inj h
    have hne : vlans.toList ≠ [] := fun hnil ↦ hempty (by rw [SortedSet.isEmpty, hnil]; rfl)
    have hpieces : ((vlans.toList.map Word.text).map String.toList) =
        vlans.toList.map fun vlan ↦ Text.digits (Word.toNat vlan) := by
      rw [List.map_map]
      exact List.map_congr_left fun vlan _ ↦ Word.toList_text vlan
    have hsplit : splitOn ';' (String.intercalate ";" (vlans.toList.map Word.text)).toList =
        vlans.toList.map fun vlan ↦ Text.digits (Word.toNat vlan) := by
      rw [String.toList_intercalate, hpieces]
      refine Text.splitOn_intercalate (by simpa using hne) fun piece hpiece ↦ ?_
      obtain ⟨vlan, -, rfl⟩ := List.mem_map.1 hpiece
      exact Text.not_mem_digits (by decide) _
    have hfilter : (vlans.toList.map fun vlan ↦ Text.digits (Word.toNat vlan)).filter
        (!·.isEmpty) = vlans.toList.map fun vlan ↦ Text.digits (Word.toNat vlan) := by
      refine List.filter_eq_self.2 fun piece hpiece ↦ ?_
      obtain ⟨vlan, -, rfl⟩ := List.mem_map.1 hpiece
      simp
    have hread : (vlans.toList.map fun vlan ↦ Text.digits (Word.toNat vlan)).mapM
        (fun piece ↦ (Text.word? (trim piece) : Option UInt16)) = some vlans.toList := by
      rw [mapM_eq_some_iff, List.map_map]
      refine List.map_congr_left fun vlan _ ↦ ?_
      rw [Function.comp_apply, Text.trim_digits, Text.word?_digits]
    rw [trunks?, hsplit, hfilter, hread, Option.map_some, SortedSet.ofList_toList]

/-- An option that holds VLANs reads back, unless there are none. -/
theorem read?_trunks_of_get? {options : OptionList} {vlans : Option (SortedSet UInt16)}
    (h : options.get? "trunks" = vlans.bind trunksText?) :
    options.read? "trunks" trunks? = .ok (vlans.filter (!·.isEmpty)) := by
  rw [OptionList.read?, h]
  cases vlans with
  | none => rfl
  | some vlans =>
    rw [Option.bind_some]
    cases hempty : vlans.isEmpty with
    | true => simp [trunksText?, hempty, Option.filter]
    | false =>
      have htext : trunksText? vlans =
          some (String.intercalate ";" (vlans.toList.map Word.text)) := by
        simp [trunksText?, hempty]
      rw [htext]
      dsimp only
      rw [trunks?_trunksText? htext]
      simp [Option.filter, hempty]

theorem decodeRate_formatDecimal (n : UInt32) :
    decodeRate (formatDecimal n.toNat ratePlaces) = .ok n := by
  have hlt : n.toNat < 2 ^ 64 := Nat.lt_of_lt_of_le n.toNat_lt (by decide)
  have htoNat : (UInt64.ofNat n.toNat).toNat = n.toNat := UInt64.toNat_ofNat_of_lt' hlt
  have hread : parseDecimal (formatDecimal (UInt64.ofNat n.toNat).toNat ratePlaces) ratePlaces =
      .ok (UInt64.ofNat n.toNat) := parseDecimal_formatDecimal (by decide) _
  rw [htoNat] at hread
  have hword : (Word.ofNat? n.toNat : Option UInt32) = some n := Word.ofNat?_toNat n
  refine bind_eq_ok_iff.2 ⟨UInt64.ofNat n.toNat, mapError_eq_ok_iff.2 hread, ?_⟩
  rw [htoNat, hword]
  rfl

theorem decodeCard_entries (interface : NetworkInterface) :
    decodeCard (.mk interface.entries) = .ok (interface.card, interface.mac) := by
  have hcard : (Token.ofName? (Token.name interface.card) : Option NetworkModel) =
      some interface.card := Token.ofName?_name _
  rw [entries_eq, cardEntries]
  cases hmac : interface.mac with
  | some mac =>
    simp [decodeCard, OptionList.pair, Except.map, bind, Except.bind, hcard, pure, Except.pure]
  | none =>
    simp [decodeCard, OptionList.positional, bind, Except.bind, hcard, pure, Except.pure]

/-- No option is called like a card, so that options are found behind it. -/
theorem get?_entries (interface : NetworkInterface) {name : String}
    (hname : (Token.members : List NetworkModel).all (Token.name · != name) = true) :
    (OptionList.mk interface.entries).get? name =
      (OptionList.mk interface.optionEntries).get? name := by
  have hne : Token.name interface.card ≠ name := by
    simpa using List.all_eq_true.1 hname _ (Token.complete interface.card)
  have hcard : (OptionList.mk interface.cardEntries).get? name = none := by
    unfold cardEntries
    cases interface.mac with
    | some mac => simp [get?_pair, hne]
    | none => exact get?_positional _ _
  rw [entries_eq, get?_append, hcard, Option.none_or]

/-- **An interface reads back as what is left of it.** -/
theorem decode_text (interface : NetworkInterface) :
    decode interface.text = .ok interface.stored := by
  have hbridge : (OptionList.mk interface.entries).get? "bridge" =
      interface.bridge.map Checked.text := by
    rw [interface.get?_entries (by decide)]
    simp [optionEntries, get?_append, get?_optional, get?_flag]
  have hfirewall : (OptionList.mk interface.entries).get? "firewall" =
      (whenSet (interface.firewall == some true)).map flagText := by
    rw [interface.get?_entries (by decide)]
    simp [optionEntries, get?_append, get?_optional, get?_flag]
  have hlink : (OptionList.mk interface.entries).get? "link_down" =
      (whenSet (interface.connected == some false)).map flagText := by
    rw [interface.get?_entries (by decide)]
    simp [optionEntries, get?_append, get?_optional, get?_flag]
  have hmtu : (OptionList.mk interface.entries).get? "mtu" =
      (interface.mtu.map Mtu.code).map Word.text := by
    rw [interface.get?_entries (by decide)]
    simp [optionEntries, get?_append, get?_optional, get?_flag, Function.comp_def]
  have hqueues : (OptionList.mk interface.entries).get? "queues" =
      (interface.queues.filter (· ≠ 0)).map Word.text := by
    rw [interface.get?_entries (by decide)]
    simp [optionEntries, get?_append, get?_optional, get?_flag]
  have hrate : (OptionList.mk interface.entries).get? "rate" =
      (interface.rateLimit.filter (· ≠ 0)).map fun n ↦ formatDecimal n.toNat ratePlaces := by
    rw [interface.get?_entries (by decide)]
    simp [optionEntries, get?_append, get?_optional, get?_flag]
  have htag : (OptionList.mk interface.entries).get? "tag" =
      (interface.nativeVlan.filter (· ≠ 0)).map Word.text := by
    rw [interface.get?_entries (by decide)]
    simp [optionEntries, get?_append, get?_optional, get?_flag]
  have htrunks : (OptionList.mk interface.entries).get? "trunks" =
      interface.taggedVlans.bind trunksText? := by
    rw [interface.get?_entries (by decide)]
    simp [optionEntries, get?_append, get?_optional, get?_flag]
  rw [decode, text, parse_text_of_isClean interface.isClean_entries, ofOptions,
    decodeCard_entries]
  simp only [bind, Except.bind, pure, Except.pure,
    OptionList.decoded?_of_get? hbridge fun a _ ↦ Checked.decode_text a,
    OptionList.decoded?_of_get? hrate fun n _ ↦ decodeRate_formatDecimal n,
    OptionList.flag?_of_get? hfirewall, OptionList.flag?_of_get? hlink,
    OptionList.word?_of_get? hmtu, OptionList.word?_of_get? hqueues, OptionList.word?_of_get? htag,
    read?_trunks_of_get? htrunks]
  rw [stored, Option.map_map]
  rfl

/-! ## Laying over what was laid over -/

/-- The spelling of an address that was chosen once is chosen again. -/
theorem mac_laidOver_laidOver (desired current : Option MacAddress) :
    MacAddress.laidOver desired (MacAddress.laidOver desired current) =
      MacAddress.laidOver desired current := by
  cases desired with
  | none => rfl
  | some a =>
    cases current with
    | none => simp [MacAddress.laidOver]
    | some b =>
      by_cases h : a.sameAs b = true <;> simp [MacAddress.laidOver, h]

theorem entries_congr {a b : NetworkInterface} (hmac : a.mac = b.mac) (hcard : a.card = b.card)
    (hbridge : a.bridge = b.bridge)
    (hfirewall : (a.firewall == some true) = (b.firewall == some true))
    (hlink : (a.connected == some false) = (b.connected == some false))
    (hmtu : a.mtu.map Mtu.code = b.mtu.map Mtu.code)
    (hqueues : a.queues.filter (· ≠ 0) = b.queues.filter (· ≠ 0))
    (hrate : a.rateLimit.filter (· ≠ 0) = b.rateLimit.filter (· ≠ 0))
    (htag : a.nativeVlan.filter (· ≠ 0) = b.nativeVlan.filter (· ≠ 0))
    (htrunks : a.taggedVlans.bind trunksText? = b.taggedVlans.bind trunksText?) :
    a.entries = b.entries := by
  have hmtu : (a.mtu.map fun mtu ↦ Word.text mtu.code) =
      b.mtu.map fun mtu ↦ Word.text mtu.code := by
    have := congrArg (Option.map Word.text) hmtu
    rwa [Option.map_map, Option.map_map] at this
  simp only [entries, hmac, hcard, hbridge, hfirewall, hlink, hmtu, hqueues, hrate, htag, htrunks]

/-! ### What is lost is not written -/

theorem firewall_stored (firewall : Option Bool) :
    (whenSet (firewall == some true) == some true) = (firewall == some true) := by
  rcases firewall with _ | _ | _ <;> rfl

theorem connected_stored (connected : Option Bool) :
    ((whenSet (connected == some false)).map not == some false) = (connected == some false) := by
  rcases connected with _ | _ | _ <;> rfl

theorem mtu_stored (mtu : Option Mtu) :
    (mtu.map fun mtu ↦ Mtu.ofCode mtu.code).map Mtu.code = mtu.map Mtu.code := by
  have hcode (n : UInt16) : (Mtu.ofCode n).code = n := by
    by_cases h : n = 1 <;> simp [Mtu.ofCode, Mtu.code, h]
  cases mtu <;> simp [hcode]

theorem number_stored {α : Type} (p : α → Bool) (number : Option α) :
    (number.filter p).filter p = number.filter p := by
  simp

theorem taggedVlans_stored (vlans : Option (SortedSet UInt16)) :
    (vlans.filter (!·.isEmpty)).bind trunksText? = vlans.bind trunksText? := by
  cases vlans with
  | none => rfl
  | some vlans => cases h : vlans.isEmpty <;> simp [Option.filter, trunksText?, h]

theorem text_stored (interface : NetworkInterface) : interface.stored.text = interface.text :=
  congrArg (fun e ↦ (OptionList.mk e).text) <| entries_congr rfl rfl rfl (firewall_stored _)
    (connected_stored _) (mtu_stored _) (number_stored _ _) (number_stored _ _)
    (number_stored _ _) (taggedVlans_stored _)

/-- A setting is written alike if it is laid over what is left of it. -/
private theorem render_or {α β : Type} {r : Option α → β} {f : Option α → Option α}
    (h : ∀ a, r (f a) = r a) (desired current : Option α) :
    r (desired.or (f (desired.or current))) = r (desired.or current) := by
  cases desired with
  | none => exact h current
  | some a => rfl

/-- **Laying an interface over the outcome changes nothing** about what is written. -/
theorem text_laidOver_stored (desired current : NetworkInterface) :
    (desired.laidOver (desired.laidOver current).stored).text =
      (desired.laidOver current).text := by
  refine congrArg (fun e ↦ (OptionList.mk e).text) <|
    entries_congr (mac_laidOver_laidOver _ _) ?_ ?_
    (render_or (r := (· == some true)) firewall_stored _ _)
    (render_or (r := (· == some false)) connected_stored _ _)
    (render_or mtu_stored _ _) (render_or (number_stored _) _ _) (render_or (number_stored _) _ _)
    (render_or (number_stored _) _ _) (render_or (r := (·.bind trunksText?)) taggedVlans_stored _ _)
  · simp only [card, laidOver, stored]
    cases desired.model <;> simp
  · exact render_or (r := id) (f := id) (fun _ ↦ rfl) desired.bridge current.bridge

/-! ## The interfaces of a guest -/

theorem stored_laidOver_empty (desired : NetworkInterface) :
    (desired.laidOver { }).stored = desired.stored := by
  have hmac (mac : Option MacAddress) : MacAddress.laidOver mac none = mac := by cases mac <;> rfl
  simp [laidOver, stored, card, hmac]

/-- The rules look at the current card only. -/
theorem validate_congr {slot : Slot .network} {current current' : Option NetworkInterface}
    {desired : NetworkInterface}
    (h : (desired.model.or (current'.bind model)).getD .standard =
      (desired.model.or (current.bind model)).getD .standard) :
    desired.validate slot current' = desired.validate slot current := by
  rw [validate, validate, h]

theorem card_laidOver (desired current : NetworkInterface) :
    (desired.model.or (desired.laidOver current).stored.model).getD .standard =
      (desired.model.or current.model).getD .standard := by
  cases hmodel : desired.model <;> simp [stored, card, laidOver, hmodel]

theorem place_stored (key : String) {desired : NetworkInterface} (current : NetworkInterface)
    (hdelete : desired.delete = false) :
    place key (some (desired.laidOver current).stored) desired = [] := by
  simp [place, hdelete, text_laidOver_stored, text_stored]

/-- An interface that was put into its slot is settled, and as much in order as before. -/
theorem settles_place (slot : Slot .network) (key : String) (existing : Option NetworkInterface)
    (desired : NetworkInterface) (hvalid : desired.validate slot existing = .ok ()) :
    ((placement.place key existing desired).effect key).Settles decode existing fun after ↦
      placement.place key after desired = [] ∧ desired.validate slot after = .ok () := by
  simp only [placement]
  cases hdelete : desired.delete with
  | true =>
    have hrules (current : Option NetworkInterface) : desired.validate slot current = .ok () := by
      rw [validate, if_pos hdelete]
    cases existing with
    | none => simp [place, hdelete, Effect.Settles, hrules]
    | some current => simp [place, hdelete, Effect.Settles, Step.effect, hrules]
  | false =>
    cases existing with
    | none =>
      have hplace := place_stored key { } hdelete
      rw [stored_laidOver_empty] at hplace
      have hrules : desired.validate slot (some desired.stored) = .ok () := by
        rw [validate_congr, hvalid]
        have := card_laidOver desired { }
        rwa [stored_laidOver_empty] at this
      have heffect : (place key none desired).effect key = .set (.text desired.text) := by
        simp [place, hdelete, Step.effect]
      rw [heffect]
      exact ⟨_, _, rfl, decode_text desired, hplace, hrules⟩
    | some current =>
      by_cases hsame : (desired.laidOver current).text = current.text
      · simp [place, hdelete, hsame, Effect.Settles, hvalid]
      · have heffect : (place key (some current) desired).effect key =
            .set (.text (desired.laidOver current).text) := by
          simp [place, hdelete, hsame, Step.effect]
        have hrules : desired.validate slot (some (desired.laidOver current).stored) = .ok () :=
          (validate_congr (card_laidOver desired current)).trans hvalid
        rw [heffect]
        exact ⟨_, _, rfl, decode_text _, place_stored key current hdelete, hrules⟩

theorem ofWire_of_follows_nil {w w' : Wire} (hafter : w'.Follows .networks [] w) :
    ofWire w' = ofWire w :=
  Wire.slots_congr fun key hkey ↦ hafter key (Setting.owner?_of_ofKey? rfl rfl hkey)

/-- **The interfaces of a guest are settled**, and as much in order as before. -/
theorem settles {w w' : Wire} {current desired : Option (SlotMap .network NetworkInterface)}
    (hplain : w.HasPlainKeys .network stem) (h : ofWire w = .ok current)
    (hvalid : ∀ interfaces, desired = some interfaces → ∀ slot interface,
      interfaces.get? slot = some interface →
        interface.validate slot (current.bind (·.get? slot)) = .ok ())
    (hafter : w'.Follows .networks (placement.plan stem current desired) w) :
    ∃ after, ofWire w' = .ok after ∧ placement.plan stem after desired = [] ∧
      ∀ interfaces, desired = some interfaces → ∀ slot interface,
        interfaces.get? slot = some interface →
          interface.validate slot (after.bind (·.get? slot)) = .ok () := by
  have hfamily (key : String) (hkey : (Slot.ofKey? stem key : Option (Slot .network)).isSome) :
      w'.get? key = ((placement.plan stem current desired).effect key).applyTo (w.get? key) :=
    hafter key (Setting.owner?_of_ofKey? rfl rfl hkey)
  cases desired with
  | none => exact ⟨current, (ofWire_of_follows_nil hafter).trans h, rfl, nofun⟩
  | some interfaces =>
    obtain ⟨after, hok, hplan, hrules⟩ := Placement.settles isLocal_placement hplain h hfamily
      (q := fun slot interface found ↦ interface.validate slot found = .ok ())
      (fun slot interface hget ↦ settles_place slot _ _ interface (by
        rw [SortedMap.get?_getD_empty]
        exact hvalid interfaces rfl slot interface hget))
      fun key interface ↦ by simp [placement, Step.effect]
    refine ⟨after, hok, hplan, fun _ hsome slot interface hget ↦ ?_⟩
    obtain rfl := Option.some.inj hsome
    have := hrules slot interface hget
    rwa [SortedMap.get?_getD_empty] at this

/-- **Where interfaces are settled there is one in a slot exactly if one is asked for that
stays.** -/
theorem isSome_get?_of_plan_eq_nil {after : Option (SlotMap .network NetworkInterface)}
    {interfaces : SlotMap .network NetworkInterface}
    (h : placement.plan stem after (some interfaces) = []) (slot : Slot .network) :
    ((after.getD .empty).get? slot).isSome = (interfaces.get? slot).any (!·.delete) := by
  have hremove (key : String) (interface : NetworkInterface) :
      placement.remove key interface ≠ [] := List.cons_ne_nil _ _
  cases hasked : interfaces.get? slot with
  | none =>
    cases hafter : (after.getD .empty).get? slot with
    | none => rfl
    | some found =>
      have hfound : ((after.getD .empty).get? slot).isSome := by rw [hafter]; rfl
      have hkept := Placement.isSome_of_plan_eq_nil h hremove hfound
      rw [hasked] at hkept
      cases hkept
  | some interface =>
    have hplace := Placement.place_eq_nil_of_plan h hasked
    cases hafter : (after.getD .empty).get? slot with
    | none =>
      rw [hafter] at hplace
      simpa [placement, place] using hplace
    | some found =>
      rw [hafter] at hplace
      cases hdelete : interface.delete with
      | false => simp [hdelete]
      | true => simp [placement, place, hdelete] at hplace

end NetworkInterface

end GuestConfig
