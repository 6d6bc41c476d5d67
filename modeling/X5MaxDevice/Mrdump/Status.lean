import X5MaxDevice.Base.Memory

/-! The control block of the ram dumper at the end of the expdb partition, and the calls that
clear and read its status. -/

namespace X5MaxDevice.Mrdump

abbrev Bytes := List UInt8

def bytes (text : String) : Bytes := text.toList.map (fun c => UInt8.ofNat c.toNat)

def newline : UInt8 := 10

def expdbDevs : List String :=
  ["/dev/block/platform/mtk-msdc.0/11230000.msdc0/by-name/expdb",
   "/dev/block/platform/mtk-msdc.0/11230000.MSDC0/by-name/expdb"]

def mrdumpOffset : Nat := 3145728

def mrdumpSig : Bytes := bytes "MRDUMP04"

/-- `struct mrdump_cblock_result`, packed. -/
structure CblockResult where
  sig : Bytes
  status : Bytes
  logBuf : Bytes
  sig_length : sig.length = 9
  status_length : status.length = 128
  logBuf_length : logBuf.length = 2048
  deriving DecidableEq, Repr

def cblockSize : Nat := 2185

def CblockResult.toBytes (block : CblockResult) : Bytes :=
  block.sig ++ block.status ++ block.logBuf

def CblockResult.ofBytes (data : Bytes) : Option CblockResult :=
  if whole : data.length = cblockSize then
    some ⟨data.take 9, (data.drop 9).take 128, data.drop 137,
      by rw [List.length_take, whole]; rfl,
      by rw [List.length_take, List.length_drop, whole]; rfl,
      by rw [List.length_drop, whole]; rfl⟩
  else none

/-- The block devices by their nodes; a node that is absent cannot be opened. -/
abbrev Devices := String → Option Bytes

def Devices.set (devices : Devices) (node : String) (content : Bytes) : Devices :=
  fun other => if other = node then some content else devices other

/-- What the system calls of one run report: whether they fail, and for a failed write how
many bytes it has transferred. -/
structure Reports where
  blkGetSize64 : Bool
  blkSszGet : Bool
  seek : Bool
  read : Bool
  seekBack : Bool
  write : Option Nat
  deriving DecidableEq, Repr

/-- All calls report success, unless the device itself is too small. -/
def noFailure : Reports := ⟨false, false, false, false, false, none⟩

/-- The first node that can be opened, and the content of its partition. -/
def expdbPartition (devices : Devices) : Option (String × Bytes) :=
  expdbDevs.findSome? (fun node => (devices node).map (node, ·))

/-- The size of the partition is the length of its content. -/
def expdbOpen (devices : Devices) (reports : Reports) : Option (String × Bytes) :=
  if reports.blkGetSize64 || reports.blkSszGet then none else expdbPartition devices

/-- `lseek64` to `size - MRDUMP_OFFSET`, a difference of 64-bit numbers read as a signed
offset, which must not be negative or behind the end. -/
def seekCblock (size : Nat) : Option Nat :=
  let offset := (size + 2 ^ 64 - mrdumpOffset) % 2 ^ 64
  if offset < 2 ^ 63 ∧ offset ≤ size then some offset else none

def readCblock (content : Bytes) (offset : Nat) : Option CblockResult :=
  (Memory.read content offset cblockSize).bind CblockResult.ofBytes

/-- `memset` to zero, then `strcpy` of the text with its terminator. -/
def clearedStatus : Bytes := bytes "CLEAR" ++ List.replicate 123 0

def CblockResult.clear (block : CblockResult) : CblockResult :=
  { block with status := clearedStatus, status_length := rfl }

/-- The return value and the devices afterwards. -/
def mrdumpStatusClear (devices : Devices) (reports : Reports) : Bool × Devices :=
  match expdbOpen devices reports with
  | none => (false, devices)
  | some (node, content) =>
      match if reports.seek then none else seekCblock content.length with
      | none => (false, devices)
      | some offset =>
          match if reports.read then none else readCblock content offset with
          | none => (false, devices)
          | some block =>
              if reports.seekBack then (false, devices)
              else
                let data := block.clear.toBytes
                match reports.write with
                | some transferred =>
                    (false, ((Memory.write content offset (data.take transferred)).map
                      (devices.set node)).getD devices)
                | none =>
                    match Memory.write content offset data with
                    | some written => (true, devices.set node written)
                    | none => (false, devices)

/-- The text in front of the first NUL; none if a string function reads past the object. -/
def cString : Bytes → Option Bytes
  | [] => none
  | byte :: rest => if byte = 0 then some [] else (cString rest).map (byte :: ·)

/-- Whether `strcmp` with a literal gives 0; it reads up to the first difference. -/
def strcmpEq : Bytes → Bytes → Option Bool
  | [], _ => none
  | byte :: _, [] => some (decide (byte = 0))
  | byte :: rest, wanted :: literal =>
      if byte = wanted then strcmpEq rest literal else some false

/-- The text that `strlcpy` leaves in a destination of that size; it measures the whole source. -/
def strlcpy (size : Nat) (source : Bytes) : Option Bytes :=
  (cString source).map (·.take (size - 1))

/-- One `strtok_r`: the next token and the text behind it. -/
def strtokR (text : Bytes) : Option (Bytes × Bytes) :=
  let started := text.dropWhile (· == newline)
  if started = [] then none
  else some (started.takeWhile (· != newline), (started.dropWhile (· != newline)).drop 1)

/-- The tokens of successive calls, each of which consumes a byte. -/
def strtokAll : Nat → Bytes → List Bytes
  | 0, _ => []
  | fuel + 1, text =>
      match strtokR text with
      | none => []
      | some (token, rest) => token :: strtokAll fuel rest

def lines (text : Bytes) : List Bytes := strtokAll (text.length + 1) text

inductive MrdumpStatus where
  | none
  | failed
  | ok
  deriving DecidableEq, Repr

inductive MrdumpOutput where
  | null
  | usb
  | ext4Data
  | vfatIntStorage
  deriving DecidableEq, Repr

/-- `struct mrdump_status_result`, its buffers by the texts they hold. -/
structure MrdumpStatusResult where
  structSize : Nat
  status : MrdumpStatus
  output : MrdumpOutput
  mode : Bytes
  statusLine : Bytes
  logBuf : Bytes
  deriving DecidableEq, Repr

/-- After the `memset`, with the size of the structure stored. -/
def emptyResult : MrdumpStatusResult := ⟨2220, .none, .null, [], [], []⟩

def outputOf (value : Bytes) : Option MrdumpOutput :=
  if value = bytes "EXT4_DATA" then some .ext4Data
  else if value = bytes "VFAT_INT_STORAGE" then some .vfatIntStorage
  else none

/-- The loop over the lines behind `OK`; an unknown output ends the call. -/
def okLines : List Bytes → MrdumpStatusResult → Bool × MrdumpStatusResult
  | [], result => (true, result)
  | strval :: rest, result =>
      if (bytes "OUTPUT:").isPrefixOf strval then
        match outputOf (strval.drop 7) with
        | some output => okLines rest { result with output := output }
        | none => (false, result)
      else if (bytes "MODE:").isPrefixOf strval then
        okLines rest { result with mode := (strval.drop 5).take 31 }
      else okLines rest result

def statusLines : List Bytes → MrdumpStatusResult → Bool × MrdumpStatusResult
  | [], result => (false, result)
  | strval :: rest, result =>
      if strval = bytes "OK" then okLines rest { result with status := .ok, output := .null }
      else if strval = bytes "NONE" then (true, { result with status := .none })
      else if strval = bytes "CLEAR" then (true, { result with status := .none })
      else (true, { result with status := .failed })

/-- The part of `mrdump_status_get` behind the read; none if it reads past the block. The
copy of the status line may run on into the log, the tokens may not. -/
def parseCblock (block : CblockResult) : Option (Bool × MrdumpStatusResult) :=
  (strcmpEq block.sig mrdumpSig).bind fun signed =>
    if !signed then some (false, emptyResult)
    else
      (strlcpy 128 (block.status ++ block.logBuf)).bind fun statusLine =>
        (cString (block.status.set 127 0)).bind fun text =>
          match statusLines (lines text) { emptyResult with statusLine := statusLine } with
          | (false, result) => some (false, result)
          | (true, result) =>
              (strlcpy 2048 block.logBuf).map (fun log => (true, { result with logBuf := log }))

def mrdumpStatusGet (devices : Devices) (reports : Reports) :
    Option (Bool × MrdumpStatusResult) :=
  match expdbOpen devices reports with
  | none => some (false, emptyResult)
  | some (_, content) =>
      match if reports.seek then none else seekCblock content.length with
      | none => some (false, emptyResult)
      | some offset =>
          match if reports.read then none else readCblock content offset with
          | none => some (false, emptyResult)
          | some block => parseCblock block

end X5MaxDevice.Mrdump
