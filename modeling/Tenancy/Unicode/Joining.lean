import Tenancy.Unicode.Runs

/-!
# Joined letters

In cursive scripts a letter may join the one before it, the one behind it, both, or none; marks let
the joint pass.
-/

namespace Tenancy.Unicode

/-- `L`, `R` and `D` for letters that join the next, the one before, and both; `C` for what makes
its neighbours join, `T` for what lets joints pass, `U` for what joins nothing. -/
def joiningText : String :=
  String.join
    ["U4tTUgiT34U7nT7U7bT19UTUT2UT2UTU20TbUTU3DUR4DRDRD5R4DdCD7RD2TlUeD2TR3UR3DgRiD12RD2R9DRDRD2R2",
     "URT7U2T6U2T2UT4R2UaD3U2DUfTRTD3R5D4RD9RDRDRD2RTrU2RDbR3DfR2D4RDR2D3R2D6U12TbUpDxT9U6CU2TUoT4",
     "UT9UT3UT5UiRD5R2DRDaRDR3T3U4DUD4URDR2U5RjC3DU2D5RDU7T9DaR3URD2R2D6RDfUToUTwU1jTUTU4T8U4TU3T7",
     "UaT2UtTU1mTU4T4U8TUkT2UqTU2T2U1lTU4T2U4T2U2T3U3TUuT2U3TUbT2U1lTU4T5UT2U4TUkT2UmT6UTU1mTU2TU",
     "T4U8TU7T2UbT2UuTU1pTUcTU1eTU3TU1jTUT3U5T3UT4U7T2UbT2UtTU1mTU2TU6TU5T2UkT2UsT2U1lT2U4T4U8TUk",
     "T2UtTU20TU7T3UTU2iTU2T7UcT8U2qTU2T9UbT7U21T2UrTUTUTU1jTeUT5UT2U5TbUT10U9TU2uT4UT6UT2U2T2UpT2",
     "U4T3UgT4UdTU2T2U6TUfTUjjT3UqaT3UtT2UuT2UuT2U1sT2UT7U8TU2TbU9TU15DU2CT3UTUgD2hUcT2DyTDU39T3U4",
     "T2U9TU6T3U63T2U2TU1mTUT7UTUTU2T8U6TaU2TU1cT1aU2TcUkT4U1cTUT5UTU5TU14T9UcT2UwT4U2T2UT3U1kTUT2",
     "U3TUT3U1mT8U2T2U48T3UTdUT7U4TU6TU3T2U5iT1sUejTUCT2UqT5U1dT5U5T6U2oTxU2daT3U3xTU2oTwUfeT4U2z",
     "T2Un9wT4UTaUwT2U28T2U7kTU3TU4TUpT2U5TUjD1eLU29T2UqTiUdTU12T8UpTbU1aT3U1cTU2T4U2T2U13TU1vT6U2",
     "T2U2T2UcTU8TU1bTU1fTUT3U2T2U5T2UTU16T2U8TU6mTU2TU4TUfn4TUkhTgUgTgU5rTU6xT3Ue9TU6aTU45T5U1ae",
     "T3UT2U5T4U14T3U4TU3kD5RURUR2U2LR5D4LD5RD3RU2RT2U4D4RU40DRDR3D3RD2RDR2DRUnR4D2U9dLDxRDT4U1tT5",
     "U8tT2UlRD2UD2U1eT6U1cD3RDhUTbD3RUrD4R2DcT4U16DUD2R3UDR2D2RD2UDR2DU4RDLU1hTU1iTfU15TU2T2UaT3",
     "U1dT4U2T2U7TU1pT3U10T5UT8U1qTUcT2U1gT9UaT4U2TU2nT3U2TUT2U6TU2TU4dTU3T8UlT2U1lT2U3TU11T7U3T5",
     "U1yT6UdTUTUTUeT2U2dT8U2T3UTUnTU2cT6UTU4T2UT2U6mT4U6T2UT2UrT2U2dT8U2TUT2U2yTUTU2T6UTU2tTUTU2",
     "T4UT5U77T9UT2U74T2UTU4TU40T4U2T2U4TUwTaU14T6U2T4U8TU9T6U2T3U1aTdUT2U5iTUT3UTU5lT7UT6UTU2aTm",
     "U2T7UT2UT2U3eT6U3TUT2UT7UTU20T2U3TUTU9nT2UbT2U1gT5U5TUTUnTU445ThU6TfU8ugTcU3T3U1xcT5U1nT7Ut4",
     "TU1rT4U29TUf5kT2UT4U3mkT1aU2TnUf4T3U9TgU2T7UuT4U44T3U1izT1jU4T1eU8TUeTUmT5UTfU11sT7UThU2T7U",
     "T2UT5U2sTU4gT7UafTU1pT4Ue4T4U72T2U6rTU2TU7T2U5TUd6T7U15D1wT8UgzatTUuT2oU3kT6oU47bk"]

/-- How every character joins. -/
def joining : Table := .ofText joiningText

/-- Whether a character lets a joint pass. -/
def isTransparent (c : Char) : Bool := joining.kindOf c = 'T'

/-- Whether a character joins the one behind it. -/
def joinsNext (c : Char) : Bool := joining.kindOf c = 'L' || joining.kindOf c = 'D'

/-- Whether a character joins the one before it. -/
def joinsPrevious (c : Char) : Bool := joining.kindOf c = 'R' || joining.kindOf c = 'D'

end Tenancy.Unicode
