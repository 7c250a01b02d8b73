set_option autoImplicit false

/- The parts of thrussh the handlers touch, at their boundary: the values the engine passes
   in, the authentication decisions it receives back, and the messages a handler queues on
   a Session. Key exchange, framing and the engine's own state are not modelled. -/
namespace Pisshoff

-- thrussh::ChannelId wraps the u32 channel number.
abbrev ChannelId := UInt32

inductive Auth where
  | reject
  | accept
  | unsupportedMethod
  | partialSuccess (name instructions : String) (prompts : List (String × Bool))
deriving DecidableEq, Repr

-- What a handler can queue on thrussh's Session: a channel success or failure, or data.
inductive Msg where
  | channelSuccess (channel : ChannelId)
  | channelFailure (channel : ChannelId)
  | data (channel : ChannelId) (data : String)
deriving DecidableEq, Repr

structure Session where
  out : List Msg
deriving DecidableEq, Repr

def Session.channelSuccess (session : Session) (channel : ChannelId) : Session :=
  ⟨session.out ++ [.channelSuccess channel]⟩

def Session.channelFailure (session : Session) (channel : ChannelId) : Session :=
  ⟨session.out ++ [.channelFailure channel]⟩

def Session.data (session : Session) (channel : ChannelId) (data : String) : Session :=
  ⟨session.out ++ [.data channel data]⟩

-- thrussh::Pty enumerates terminal-mode opcodes; the handler reads only `pty as u8`.
structure Pty where
  opcode : UInt8
deriving DecidableEq, Repr

inductive Sig where
  | abrt | alrm | fpe | hup | ill | int | kill | pipe | quit | segv | term | usr1
  | custom (name : String)
deriving DecidableEq, Repr

-- char::escape_unicode: the code point in lowercase hex, no leading zeros.
def escapeUnicode (c : Char) : String :=
  "\\u\x7b" ++ String.mk (Nat.toDigits 16 c.toNat) ++ "\x7d"

-- core::unicode::printable::is_printable: the ASCII fast path, then core's tables above it.
def isPrintable (printable : Char → Bool) (c : Char) : Bool :=
  if c.toNat < 32 then false else if c.toNat < 127 then true else printable c

-- char::escape_debug_ext as Debug for str calls it: grapheme-extended characters escaped, the
-- double quote escaped, the single quote not. Grapheme_Extend holds of no character below
-- U+0300; above it, and for is_printable above ASCII, core's tables are the parameters.
def escapeDebug (printable graphemeExtend : Char → Bool) (c : Char) : String :=
  match c.toNat with
  | 0 => "\\0"
  | 9 => "\\t"
  | 13 => "\\r"
  | 10 => "\\n"
  | 92 => "\\\\"
  | 34 => "\\\""
  | code =>
      if 0x300 ≤ code && graphemeExtend c then escapeUnicode c
      else if isPrintable printable c then c.toString
      else escapeUnicode c

-- format!("{signal_name:?}") with Sig's derived Debug: a custom name as Debug for str writes
-- it, quoted and escaped character by character.
def Sig.debug (printable graphemeExtend : Char → Bool) : Sig → String
  | .abrt => "ABRT"
  | .alrm => "ALRM"
  | .fpe => "FPE"
  | .hup => "HUP"
  | .ill => "ILL"
  | .int => "INT"
  | .kill => "KILL"
  | .pipe => "PIPE"
  | .quit => "QUIT"
  | .segv => "SEGV"
  | .term => "TERM"
  | .usr1 => "USR1"
  | .custom name =>
      "Custom(\"" ++ String.join (name.toList.map (escapeDebug printable graphemeExtend)) ++ "\")"

-- thrussh_keys::key::PublicKey, which the handler reads only through name() and
-- fingerprint().
structure PublicKey where
  name : String
  fingerprint : String
deriving DecidableEq, Repr

end Pisshoff
