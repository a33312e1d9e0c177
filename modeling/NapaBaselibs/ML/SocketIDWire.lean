import NapaBaselibs.ML.Sample

/-
  The socket ID of a node in its connection messages.

  Sender and receiver convert the two address families in
  place, and both compute the external family from the
  internal one.  The internal address survives; the external
  one arrives with the family that the receiver's `htons`
  makes of the internal family.

  Key theorems include:
    * `socketID_carried_iff`
    * `external_family_swapped`
-/

------------------------------------------------------------
-- The Decoded Socket ID
------------------------------------------------------------

namespace NapaBaselibs

namespace ML

/-
  A connection message of one host, decoded by another, gives
  back the socket ID, which then compares equal, exactly when
  the external family is the receiver's `htons` of the
  internal one.
-/
theorem socketID_carried_iff
    (p q : Platform)
    (msg : ConnMsg)
    (rest : List UInt8) :
    ((ConnMsg.decode q (msg.encode p ++ rest)).sockId =
          msg.sockId ∧
        mlCompareSocketIDs q
            (ConnMsg.decode q (msg.encode p ++ rest)).sockId
            msg.sockId = 0) ↔
      msg.sockId.externalAddr.ssFamily =
        htons q msg.sockId.internalAddr.ssFamily := by
  rw [ConnMsg.decode_encode]
  constructor
  · rintro ⟨hSame, _⟩
    have hFamily :=
      congrArg (fun sock => sock.externalAddr.ssFamily) hSame
    exact hFamily.symm
  · intro hFamily
    have hSame :
        ({ internalAddr := msg.sockId.internalAddr
           externalAddr :=
            { msg.sockId.externalAddr with
              ssFamily :=
                htons q msg.sockId.internalAddr.ssFamily } } :
          SocketID) = msg.sockId := by
      rw [← hFamily]
    rw [hSame]
    exact ⟨rfl, SamePeer.refl _⟩

------------------------------------------------------------
-- A Little-Endian Host
------------------------------------------------------------

open Sample

/- Host 2 asks for a connection. -/
def Sample.invitation : ConnMsg where
  comandType := ConMsgType.invite.code
  pmtuSize := 1372
  sockId := socketID 2

/-
  With IPv4 addresses only, a little-endian host decodes an
  external address of no known family.
-/
theorem external_family_swapped :
    ∃ q : Platform,
      q.bigEndian = false ∧
        invitation.sockId.internalAddr.ssFamily = afInet ∧
        invitation.sockId.externalAddr.ssFamily = afInet ∧
        (ConnMsg.decode q
          (invitation.encode q ++
            [])).sockId.externalAddr.ssFamily = 0x200 ∧
        ¬ ((ConnMsg.decode q
              (invitation.encode q ++ [])).sockId =
            invitation.sockId ∧
          mlCompareSocketIDs q
            (ConnMsg.decode q
              (invitation.encode q ++ [])).sockId
            invitation.sockId = 0) := by
  refine
    ⟨{ platform with bigEndian := false }, rfl, rfl, rfl, ?_,
      ?_⟩
  · rw [ConnMsg.decode_encode]
    decide
  · rintro ⟨hSame, _⟩
    have hFamily :=
      congrArg (fun sock => sock.externalAddr.ssFamily) hSame
    rw [ConnMsg.decode_encode] at hFamily
    revert hFamily
    decide

end ML

end NapaBaselibs
