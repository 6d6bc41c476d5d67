import Mathlib.Algebra.Group.Nat.Defs
import Mathlib.Data.List.Basic

/-! The operating channel of a WFD sink: the mapping of a frequency to a channel, and what the
supplicant stores of it. -/

namespace X5MaxDevice.WpaSupplicant

/-- The class and the channel of a frequency; none for -1, which leaves both arguments as they
are. `p2p5g` is `CONFIG_MTK_P2P_5G`. -/
def privP2pFreqToChannel (p2p5g : Bool) (freq : Nat) : Option (Nat × Nat) :=
  if 2412 ≤ freq ∧ freq ≤ 2472 then
    if (freq - 2407) % 5 ≠ 0 then none else some (81, (freq - 2407) / 5)
  else if freq = 2484 then some (82, 14)
  else if 5180 ≤ freq ∧ freq ≤ 5240 then
    if (freq - 5000) % 5 ≠ 0 then none else some (115, (freq - 5000) / 5)
  else if p2p5g = true ∧ 5260 ≤ freq ∧ freq ≤ 5320 then some (118, (freq - 5000) / 5)
  else if p2p5g = true ∧ 5500 ≤ freq ∧ freq ≤ 5700 then some (121, (freq - 5000) / 5)
  else if 5745 ≤ freq ∧ freq ≤ 5805 then
    if (freq - 5000) % 5 ≠ 0 then none else some (124, (freq - 5000) / 5)
  else if p2p5g = true ∧ 5825 ≤ freq ∧ freq ≤ 5845 then some (125, (freq - 5000) / 5)
  else none

/-- `channel` is the first entry of the array. -/
structure P2pRegClass where
  regClass : Nat
  channel : Nat
  channelRest : List Nat
  channels : Nat
  deriving DecidableEq, Repr

/-- `regClass` is the first entry of the array. -/
structure P2pChannels where
  regClasses : Nat
  regClass : P2pRegClass
  regClassRest : List P2pRegClass
  deriving DecidableEq, Repr

structure P2pConfig where
  cfgOpChannel : Nat
  channels : P2pChannels
  deriving DecidableEq, Repr

structure P2pData where
  opRegClass : Nat
  opChannel : Nat
  channels : P2pChannels
  cfg : P2pConfig
  deriving DecidableEq, Repr

structure WpaConfig where
  p2pOperRegClass : Int
  p2pOperChannel : Int
  deriving DecidableEq, Repr

def u8 (n : Int) : Nat := (n % 256).toNat

/-- The stores for a class and a channel. -/
def P2pData.operate (p2p : P2pData) (op : Nat × Nat) : P2pData :=
  { p2p with
    opChannel := op.2
    opRegClass := op.1
    channels :=
      { p2p.channels with
        regClasses := 1
        regClass :=
          { p2p.channels.regClass with channels := 1, regClass := op.1, channel := op.2 } } }

/-- `locals` is what the uninitialised `op_reg_class` and `op_channel` hold, and `r` the random
number. -/
def p2pWfdSinkConfigScc (p2p5g : Bool) (conf : WpaConfig) (r : Nat) (locals : Nat × Nat)
    (p2p : Option P2pData) (scc : Int) (operFreq : Nat) : Option P2pData :=
  p2p.map fun p2p =>
    if scc ≠ 0 ∧ operFreq ≠ 0 then
      p2p.operate ((privP2pFreqToChannel p2p5g operFreq).getD locals)
    else
      let p2p :=
        if conf.p2pOperRegClass ≠ 0 ∧ conf.p2pOperChannel ≠ 0 then
          { p2p with
            opRegClass := u8 conf.p2pOperRegClass
            opChannel := u8 conf.p2pOperChannel
            cfg := { p2p.cfg with cfgOpChannel := 1 } }
        else
          { p2p with
            opRegClass := 81
            opChannel := 1 + r % 3 * 5
            cfg := { p2p.cfg with cfgOpChannel := 0 } }
      { p2p with channels := p2p.cfg.channels }

/-- The channels of each operating class, as the comments of the mapping list them. -/
def Known (p2p5g : Bool) (opClass channel : Nat) : Prop :=
  (opClass = 81 ∧ 1 ≤ channel ∧ channel ≤ 13) ∨
    (opClass = 82 ∧ channel = 14) ∨
    (opClass = 115 ∧ 36 ≤ channel ∧ channel ≤ 48) ∨
    (opClass = 124 ∧ 149 ≤ channel ∧ channel ≤ 161) ∨
    (p2p5g = true ∧
      ((opClass = 118 ∧ 52 ≤ channel ∧ channel ≤ 64) ∨
        (opClass = 121 ∧ 100 ≤ channel ∧ channel ≤ 140) ∨
        (opClass = 125 ∧ channel ∈ [149, 153, 157, 161, 165, 169])))

instance (p2p5g : Bool) (opClass channel : Nat) : Decidable (Known p2p5g opClass channel) :=
  inferInstanceAs (Decidable (_ ∨ _))

/-- The centre frequency in MHz. -/
def centre (opClass channel : Nat) : Nat :=
  if opClass = 81 then 2407 + 5 * channel
  else if opClass = 82 then 2414 + 5 * channel
  else 5000 + 5 * channel

/-- A known channel with that centre frequency. -/
def CentreOf (p2p5g : Bool) (freq : Nat) (op : Nat × Nat) : Prop :=
  Known p2p5g op.1 op.2 ∧ centre op.1 op.2 = freq

/-- The class and the channel are the operating ones, and the only ones listed. -/
structure Operates (p2p : P2pData) (op : Nat × Nat) : Prop where
  opRegClass : p2p.opRegClass = op.1
  opChannel : p2p.opChannel = op.2
  regClasses : p2p.channels.regClasses = 1
  channels : p2p.channels.regClass.channels = 1
  regClass : p2p.channels.regClass.regClass = op.1
  channel : p2p.channels.regClass.channel = op.2

theorem operate_operates (p2p : P2pData) (op : Nat × Nat) : Operates (p2p.operate op) op :=
  ⟨rfl, rfl, rfl, rfl, rfl, rfl⟩

/-- The stores leave the data alone that hold the values already. -/
theorem operate_eq_self_iff (p2p : P2pData) (op : Nat × Nat) :
    p2p.operate op = p2p ↔ Operates p2p op := by
  constructor
  · intro same
    rw [← same]
    exact operate_operates p2p op
  · rintro ⟨opRegClass, opChannel, regClasses, channels, regClass, channel⟩
    rcases p2p with ⟨_, _, ⟨_, ⟨_, _, _, _⟩, _⟩, _⟩
    dsimp only at opRegClass opChannel regClasses channels regClass channel
    subst opRegClass opChannel regClasses channels regClass channel
    rfl

section Bands

variable {p2p5g : Bool} {freq channel : Nat}

theorem freqToChannel_81 (spaced : freq = 2407 + 5 * channel) (low : 1 ≤ channel)
    (high : channel ≤ 13) : privP2pFreqToChannel p2p5g freq = some (81, channel) := by
  have divides : (freq - 2407) % 5 = 0 := by omega
  have quotient : (freq - 2407) / 5 = channel := by omega
  rw [privP2pFreqToChannel, if_pos (by omega), if_neg (by omega), quotient]

theorem freqToChannel_82 : privP2pFreqToChannel p2p5g 2484 = some (82, 14) := by
  rw [privP2pFreqToChannel, if_neg (by omega), if_pos rfl]

theorem freqToChannel_115 (spaced : freq = 5000 + 5 * channel) (low : 36 ≤ channel)
    (high : channel ≤ 48) : privP2pFreqToChannel p2p5g freq = some (115, channel) := by
  have quotient : (freq - 5000) / 5 = channel := by omega
  rw [privP2pFreqToChannel, if_neg (by omega), if_neg (by omega), if_pos (by omega),
    if_neg (by omega), quotient]

theorem freqToChannel_118 (spaced : freq = 5000 + 5 * channel) (low : 52 ≤ channel)
    (high : channel ≤ 64) : privP2pFreqToChannel true freq = some (118, channel) := by
  have quotient : (freq - 5000) / 5 = channel := by omega
  rw [privP2pFreqToChannel, if_neg (by omega), if_neg (by omega), if_neg (by omega),
    if_pos (And.intro rfl (by omega)), quotient]

theorem freqToChannel_121 (spaced : freq = 5000 + 5 * channel) (low : 100 ≤ channel)
    (high : channel ≤ 140) : privP2pFreqToChannel true freq = some (121, channel) := by
  have quotient : (freq - 5000) / 5 = channel := by omega
  rw [privP2pFreqToChannel, if_neg (by omega), if_neg (by omega), if_neg (by omega),
    if_neg (by omega), if_pos (And.intro rfl (by omega)), quotient]

theorem freqToChannel_124 (spaced : freq = 5000 + 5 * channel) (low : 149 ≤ channel)
    (high : channel ≤ 161) : privP2pFreqToChannel p2p5g freq = some (124, channel) := by
  have quotient : (freq - 5000) / 5 = channel := by omega
  rw [privP2pFreqToChannel, if_neg (by omega), if_neg (by omega), if_neg (by omega),
    if_neg (by omega), if_neg (by omega), if_pos (by omega), if_neg (by omega), quotient]

theorem freqToChannel_125 (spaced : freq = 5000 + 5 * channel) (low : 165 ≤ channel)
    (high : channel ≤ 169) : privP2pFreqToChannel true freq = some (125, channel) := by
  have quotient : (freq - 5000) / 5 = channel := by omega
  rw [privP2pFreqToChannel, if_neg (by omega), if_neg (by omega), if_neg (by omega),
    if_neg (by omega), if_neg (by omega), if_neg (by omega),
    if_pos (And.intro rfl (by omega)), quotient]

end Bands

/-- Known frequencies are mapped to a channel with that centre. Class 125 shares its channels
below 165 with class 124, which is tried before it. -/
theorem freqToChannel_known {p2p5g : Bool} {freq : Nat} {op : Nat × Nat}
    (known : CentreOf p2p5g freq op) :
    ∃ mapped, privP2pFreqToChannel p2p5g freq = some mapped ∧ CentreOf p2p5g freq mapped := by
  rcases op with ⟨opClass, channel⟩
  rcases known with ⟨listed, rfl⟩
  dsimp only at listed
  rcases listed with ⟨rfl, low, high⟩ | ⟨rfl, rfl⟩ | ⟨rfl, low, high⟩ | ⟨rfl, low, high⟩ |
    ⟨rfl, ⟨rfl, low, high⟩ | ⟨rfl, low, high⟩ | ⟨rfl, member⟩⟩
  · exact ⟨_, freqToChannel_81 rfl low high, Or.inl ⟨rfl, low, high⟩, rfl⟩
  · exact ⟨_, freqToChannel_82, Or.inr (Or.inl ⟨rfl, rfl⟩), rfl⟩
  · exact ⟨_, freqToChannel_115 rfl low high, Or.inr (Or.inr (Or.inl ⟨rfl, low, high⟩)), rfl⟩
  · exact ⟨_, freqToChannel_124 rfl low high,
      Or.inr (Or.inr (Or.inr (Or.inl ⟨rfl, low, high⟩))), rfl⟩
  · exact ⟨_, freqToChannel_118 rfl low high,
      Or.inr (Or.inr (Or.inr (Or.inr ⟨rfl, Or.inl ⟨rfl, low, high⟩⟩))), rfl⟩
  · exact ⟨_, freqToChannel_121 rfl low high,
      Or.inr (Or.inr (Or.inr (Or.inr ⟨rfl, Or.inr (Or.inl ⟨rfl, low, high⟩)⟩))), rfl⟩
  · simp only [List.mem_cons, List.not_mem_nil, or_false] at member
    by_cases upper : 165 ≤ channel
    · have listed : channel ∈ [149, 153, 157, 161, 165, 169] := by simpa using member
      exact ⟨_, freqToChannel_125 rfl upper (by omega),
        Or.inr (Or.inr (Or.inr (Or.inr ⟨rfl, Or.inr (Or.inr ⟨rfl, listed⟩)⟩))), rfl⟩
    · have low : 149 ≤ channel := by omega
      have high : channel ≤ 161 := by omega
      exact ⟨_, freqToChannel_124 rfl low high,
        Or.inr (Or.inr (Or.inr (Or.inl ⟨rfl, low, high⟩))), rfl⟩

/-- A known channel with that centre is operated, or there is none and nothing changes. -/
def Selects (p2p5g : Bool) (freq : Nat) (before : P2pData) (after : Option P2pData) : Prop :=
  ∃ p2p, after = some p2p ∧
    ((∃ op, CentreOf p2p5g freq op ∧ Operates p2p op) ∨
      ((¬ ∃ op, CentreOf p2p5g freq op) ∧ p2p = before))

/-- The frequency is the centre of a known channel, or what is stored for it is there before. -/
def Selectable (p2p5g : Bool) (freq : Nat) (locals : Nat × Nat) (before : P2pData) : Prop :=
  (∃ op, CentreOf p2p5g freq op) ∨
    Operates before ((privP2pFreqToChannel p2p5g freq).getD locals)

def noChannels : P2pChannels := ⟨0, ⟨0, 0, [], 0⟩, []⟩

def idleP2p : P2pData := ⟨81, 1, noChannels, ⟨0, noChannels⟩⟩

end X5MaxDevice.WpaSupplicant
