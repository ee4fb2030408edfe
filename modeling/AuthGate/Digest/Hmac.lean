import AuthGate.Digest.Sha2

namespace AuthGate.Digest

def blockKey (h : Hash) (key : List UInt8) : List UInt8 :=
  let k := if h.blockSize < key.length then h.digest key else key
  k ++ List.replicate (h.blockSize - k.length) 0

def hmac (h : Hash) (key message : List UInt8) : List UInt8 :=
  let k := blockKey h key
  h.digest (k.map (· ^^^ 0x5c) ++ h.digest (k.map (· ^^^ 0x36) ++ message))

end AuthGate.Digest
