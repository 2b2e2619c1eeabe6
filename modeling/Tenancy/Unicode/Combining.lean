import Tenancy.Unicode.Runs

/-!
# Marks

A mark belongs to the character before it. Marks of different classes do not touch each other, so
their order means nothing; marks of one class keep their order.
-/

namespace Tenancy.Unicode

/-- `M` for marks, `O` for all other characters. -/
def markText : String :=
  String.join
    ["OlcM34O7nM7O7bM19OMOM2OM2OMO20MbO1cMlOgMO2tM7O2M6O2M2OM4OzMOuMrO2jMbO1mM9O9MOoM4OM9OM3OM5O17",
     "M3O1nM9O16MoOMxO1iM3OMiOM7OaM2OtM3O1kMOM7O2M2O2M3O9MOaM2OqMO2M3O1kMOM5O4M2O2M3O3MOuM2O3MObM3",
     "O1kMOM8OM3OM3OkM2OmM6OM3O1kMOM7O2M2O2M3O7M3OaM2OuMO1nM5O3M3OM4O9MO14M5O1jMOM7OM3OM4O7M2ObM2",
     "OtM3O1kMOM7OM3OM4O7M2ObM2OfMOcM4O1jM2OM7OM3OM4O9MOaM2OtM3O1yMO4M6OMOM8OiM2O1pMO2M7OcM8O2qMO2",
     "M9ObM7O21M2OrMOMOMO4M2O1dMkOM2O5MbOM10O9MO2sMkOnM4O4M3OM3O2M7O3M4OdMcOMOaM4OjjM3OqaM4OsM3Ot",
     "M2OuM2O1sMwO9MO19M3OMO39M2OyMO3aMcO4McO63M5O1lMaOMtO2MO1cM1aO2McOkM5O1bMhO12M9OcM3OuMdO1kMe",
     "O1cMkO48M3OMlO4MO6MO2M3O5iM1sOk0MxO2daM3O3xMO2oMwOfeM6O2xM2On9wM4OMaOwM2O28M2O7kMO3MO4MOnM5",
     "O4MO2bM2O1eMiOqMiOdMO12M8OpMdO18M4O1bMeO10MO1vMeOcMO8M2O19M3O1eMOM3O2M2O5M2OMO15M5O5M2O6kM8O",
     "M2Ofn4MOkhMgOgMgOr1MO6aMO45M5O1aeM3OM2O5M4O14M3O4MO4lM2OfxM4O1tM5O8tM2O25M6O1yMbO1dM4O3eM3",
     "O1hMfO15MO2M2OaM4O19MbO7MO1pM3O10MeOgM2O18MOcM3O1cMeO8M4OM2O2kMcO6MO2MO4dMcOlM4O1jM2OM7O2M2",
     "O2M3O9MOaM2O2M7O3M5O1vM9OMO2MOM4OM5OMOeM2O2aMiOnMO29MkO6jM7O2M9OrM2O2aMhO2yMdO2tMfO74MfO6tM6",
     "OM2O2M4OMOM2O3xM7O2M7O3MOsMaO14M7OM4O8MO9MbO1aMgO5iM8O5jM8OM8O2aMmOMeO3eM6O3MOM2OM7OMO1uM5O",
     "M2OM5O9nM4O9M2OMO1cM7O3M5OnMO44lMO6MfO8ugMiO1xcM5O1nM7Ot4MOM1jO7M4O29MObM2Of57M2O3mpM1aO2Mn",
     "Of2M5O3M6O8M8O2M7OuM4O44M3O1izM1jO4M1eO8MOeMOmM5OMfO11sM7OMhO2M7OM2OM5O2sMO4gM7OafMO1pM4Oe4",
     "M4O72M2O6rMO2MO7M2O5MOd6M7O31M7OgzhxM6oO47bk"]

/-- Whether every character is a mark. -/
def marks : Table := .ofText markText

/-- Whether a character is a mark. -/
def isMark (c : Char) : Bool := marks.kindOf c = 'M'

/-- `C` and the class for marks that have one, `S` for characters that stand for themselves. -/
def combiningText : String :=
  String.join
    ["SlcCl.6eC.6gC4.64C.6gC.60C5.64C2.5mC4.64C2.5mCb.64C5.1C4.64C8.6eC.6oC.6eC3.64C3.6eC2.64S",
     "C3.6eC4.64C.6eC.6gC2.64C.6eC.6hC2.6iC.6hC2.6iC.6hCd.6eS7nC5.6eS7dC.64C4.6eC.64C3.6eC.66C.64",
     "C6.6eC6.64C2.6eC.64C2.6eC.66C.6cC.6eC.aC.bC.cC.dC.eC.fC.gC.hC.iC2.jC.kC.lC.mSC.nSC.oC.pSC.6e",
     "C.64SC.iS20C8.6eC.uC.vC.wS1cC.rC.sC.tC.uC.vC.wC.xC.yC2.6eC2.64C5.6eC.64C2.6eC.64SgC.zS2t",
     "C7.6eS2C4.6eC.64C.6eS2C2.6eSC.64C2.6eC.64SzC.10SuC.6eC.64C2.6eC.64C2.6eC3.64C.6eC2.64C.6e",
     "C.64C3.6eC.64C.6eC.64C.6eC.64C.6eC.64C2.6eS4gC7.6eC.64C.6eS9C.64SoC4.6eSC9.6eSC3.6eSC5.6eS17",
     "C3.64S1nC2.6eC3.64C4.6eS16C5.6eC5.64Ce.6eSC.64C2.6eC.64C2.6eC.64C3.6eC3.64C.rC.sC.tC3.6eC.64",
     "C2.6eC2.64C5.6eS1oC.7SgC.9S3C.6eC.64C2.6eS2vC.7SgC.9S1cC.6eS1pC.7SgC.9S32C.7SgC.9S32C.7SgC.9",
     "S3jC.9S32C.7SgC.9S7C.2cC.2jS2tC.7SgC.9S31C2.9SgC.9S3gC.9S31C2.2vC.9SdC4.2zS30C2.3aC.9SdC4.3e",
     "S24C2.64SrC.64SC.64SC.60S1jC.3lC.3mSC.3oS5C4.3mS2C.3mSC2.6eC.9SC2.6eS1qC.64S34C.7SC2.9S2a",
     "C.64SjzC3.6eSqcC2.9SuC.9S4dC.9SaC.6eS5nC.6cS3zC.66C.6eC.64S63C.6eC.64S1zC.9SkC8.6eS2C.64S1c",
     "C5.6eC6.64C2.6eC.64SC2.64C2.6eC2.64C5.6eC.64Ci.6eC.64S2C6.6eC.64C4.6eC.6iS20C.7SfC.9S12C.6e",
     "C.64C7.6eS1iC2.9S1mC.7SbC2.9S1vC.7S48C3.6eSC.1C5.64C2.6eC4.64C.6eSC7.1S4C.64S6C.6eS3C2.6eS5i",
     "C2.6eC.64C7.6eC.64C2.6eC.6iC.5yC.64C.5mC11.6eC.6gC2.6cC.64C.62C.6eC.6hC.64C.6eC.64Sk0C2.6e",
     "C2.1C4.6eC3.1C2.6eS4C.6eS3C2.1C.6eC.64C.6eC2.1C4.64C.6eS2daC3.6eS3xC.9S2oCw.6eSfeC.62C.6c",
     "C.6gC.66C2.68S2xC2.8Sn9wC.6eS4Ca.6eSwC2.6eS28C2.6eS7oC.9S11C.9S47C.9SrCi.6eS1lC3.64S11C.9S2n",
     "C.7ScC.9S6nC.6eSC2.6eC.64S2C2.6eS5C2.6eSC.6eS1gC.9S6uC.9Sfn4C.qSldC7.6eC7.64C2.6eSr1C.64S6a",
     "C.64S45C5.6eS1aqC.64SC.6eS14C.6eC.1C.64S4C.9S4lC.6eC.64SfxC4.6eS1tC5.6eS8tC2.6eS25C2.64S",
     "C3.64S1yC2.64C3.6eC.64C.6eC4.64S1dC.6eC.64C.6eC.64S5cC.9S15C.9SeC.9S1lC.9C.7S1xC3.6eS1cC2.9",
     "S1qC.7S24C.9S9C.7S2yC.9C.7S4yC.7C.9S28C2.7SgC.9SoC7.6eS3C5.6eS2hC3.9S35C.9S3C.7SnC.6eS2rC.9",
     "C.7S6zC.9C.7S3iC.9S3aC.9C.7S37C.9S7hC.9C.7S76C2.9S4C.7S4cC.9S2bC.9SiC.9S29C.9SbpC.9S76C.7S",
     "C2.9S29C.9SbtC2.9Sd0sC.9S1xcC5.1S1nC7.6eSxlC2.6Sf58C.1S43qC2.60C3.1S3C.6aC5.60S8C8.64S2C5.6e",
     "C2.64SuC4.6eS44C3.6eS2pnC7.6eSCh.6eS2C7.6eSC2.6eSC5.6eS2sC.6eS4gC7.6eSafC.6eS1pC4.6eSe4C2.6g",
     "C.64C.6eS72C.6eC.64S6rC.6eS2C.6eS7C2.6eS5C.6eSd6C7.64S31C6.6eC.7Sl705"]

/-- The class of every mark. -/
def combining : Table := .ofText combiningText

/-- The class of a mark; characters that stand for themselves have class zero. -/
def combiningClass (c : Char) : Nat := ((combining.find? c).bind (·.2.numbers.head?)).getD 0

/-- Whether a character takes the vowel off the letter before it, which joins it to the next. -/
def isVirama (c : Char) : Bool := combiningClass c = 9

end Tenancy.Unicode
