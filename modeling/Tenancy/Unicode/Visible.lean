import Tenancy.Unicode.Runs

/-!
# Characters that can be seen

Controls, blanks other than the space, marks that only change the character before them, formatting,
private and unassigned characters leave nothing on a page that tells them apart.
-/

namespace Tenancy.Unicode

/-- `S` for characters that can be seen, `H` for hidden ones. -/
def visibilityText : String :=
  String.join
    ["HwS2nHyScHSgiH34S8H2S6H4S7HSHSkHS68H7S4mHS12H2S1eH2S3H1aSHSH2SH2SH9SrH4S6HhSaHbSHS1aHlSgHS2t",
     "H8SH6S2H2SH4SwH2SHSuHtS2hHbSHeS17H9S7H3SoH4SH9SH3SH7SfHSpH5SHSbH5SwHgS16H1lS1jHSHS4H8S4HS3H7",
     "SaH2StHS2HS8H2S2H2SmHS7HSH3S4H3SHS2H6S2H2S2HSHdS2HS3H4SoH5SHS6H4S2H2SmHS7HS2HS2HS2H4S3HoS4HS",
     "H7SaH2S3HSHcSHS9HS3HSmHS7HS2HS5H3S4H8SHS2H3SHfS2H4ScH7SH8S2HS8H2S2H2SmHS7HS2HS5H3SH2SH6S2H2",
     "S2HfS2HS3H4SiHbSHS6H3S3HS4H3S2HSHS2H3S2H3S3H3ScH5SHS2H3S3HS3H3SHlSlH6S3HS8HS3HSnHSgH3SH3S4Hj",
     "S3HS2H2S2H4SaH7SaHSbHS3HSnHSaHS5H3S2H2SHS2HnS3HS2H4SaHS3HeSbHS3HS15H2SHS2H5S3HS3HS2H4S3HSaH4",
     "SqH2S2HSiH3SoHS9HSH2S7H9S2H6S7H7SaH2S3HcS1cHS2HbS8H8SdH11S2HSHS5HSoHSHSaHS2H9SH2S5HSH9SaH2S4",
     "HwSoH2SrHSHSHSeHS10HiSH5SH2S5H1dS8HS6HSdH11S19H4SH6SH2S2H2SpH2S4H3SgH4SdHS2H2S6HSfHS14HSH5S",
     "H2S3zH2S6gHS4H2S7HSHS4H2S15HS4H2SxHS4H2S7HSHS4H2SfHS1lHS4H2S1vH5StH3SqH6S2eH2S6H2ShsHSsH3S2h",
     "H7SiHdSjH3S2H9SiHeSdHS3HfS1gH2SH7S8HS2HbS9H3SaH6SaH6SbH5SaH6S2hH7S5H2SyHSH5S1yHaSvH4S4H2S3H4",
     "S2HS6H7SH3S16H2S5HbS18H4SqH6SbH3S1lH2S2H3S1kHSH9SHS2H8S6HdSaH6SaH6SeH2eS1cHaS4H3S8HStH9ScH2",
     "SwH4S2H6S1kHSH2S3HSHdS1cH8S2H5SfH3S1qH5S17H2SbHbSHdSH7S4HS6HS3H2SH5S5cH1sS7qH2S6H2S12H2S6H2",
     "S8HSHSHSHSvH2S1hHSfHSeH2S6HSjH2S3HS9HhSoH8S1bHhS2H2SrHSdH3SyH1qS3wH4SiiHmSbHlS1ecH2SahH3S2H5",
     "S19HSH5SH2S1kH7S2HfSnH9S7HS7HS7HS7HS7HS7HS7HS7HxS2mHySqHS2hHcS5yHqSgHS15H6SgHS2eH4S2tH5S17H",
     "S1fHS16HS2eH9S1cHSmlpH3S1jH9S9oHkS1bH4SHaSwH2S28H2S6H8S65HkShHS3HS4HSpH2S5H4SaH6S1kH8S1wHaSc",
     "HoSdHS12H8SpHbSHcSuH6S1cHS2H4S2H2S2HSdHSbH4S7HSpHS15H6S2H2S2HbS3HS8HSH2SaH2SwHS1fHSH3S2H2S5",
     "H2SHSHoShH2S8HbS6H2S6H2S6H9S7HS7HS1oH4S39HS2HS4H3SaH6S8mcHcSnH4S1dH6isSa6H2S2yH12S7HcS5H5SH",
     "SoHS5HSHS2HS2HSi2HwSgHgSaHmSzHSjHS4H4S5HS3rH4S4fHSuH3S6H2S6H2S6H2S3H3S7HS7HdS2H2ScHSqHSjHS2H",
     "SfH2SeHyS3fH5S3H4S19H3S2gHSdH3SH1bS19H3nStH3S1dHgSrH4S10H9SuH5S12HaSuHS11H4SeH16S4eH2SaH6S10",
     "H4S10H4S14H8S1gHbScHSfHS7HS2HSbHSfHS7HS2H3S1gHcS8nH9SmHaS8HoS6HS16HS9H1xS6H2SHS18HS2H3SH2SnH",
     "S20H8S9H1cSjHS2H5SxH3SrH5SrH12S1kH4SkH2S1bHfS4HS3HStHaS9H7S9H7S1sHwS11H6ScH9S1iH3StH2SrH5Sq",
     "H7S4HcS7H28S21H1jS1fHdS1fH7S16HcSaH6S12H8SoH8S2H5sSvHS16H3SH2S2HgS6H8S9H13S14H8SmHbS9HmSiH4",
     "S4H12SsHkSnH9SHS1iHfS7H4SuHS2H2SHcS1dH4S2H2S2HS4HeSpH7SaH9S10H5SH9SiH8SzHS3HbS1gH9SHS8H4S2H",
     "SgHSkHbSiHSsH3S2H4S6HS2H1rS7HSHS4HSfHSbH6S1bHS3HdSaH8S2HS8H2S2H2SmHS7HS2HS5H3SHSHS4H2S2H2S2",
     "H3SHcS7HsSaHSH2SHS12HSHS2HfSHS2H3SHS3HS2H13S1kH8S2H3SHSlHSHS3HuS1cHS2H6SHS2HSH2SH2S4H8SaH4m",
     "S1bHS2H6S4H2SH2SrH10S1fH8S2HSH2S4HbSaH6SdHjS17HSHS2H8S2H6SaH6SkHsSrH3SHS2H4SH9SnH55S1bH9SH2S",
     "H2sS2bHcS8H2SH2S8HS2HSoHS5HS2H6S4HS3H9SaH1yS8H2S16H8S4HS4HrSHaS14H6S2H4S8H9SH6S2H3S1aHdSH2S9",
     "HdS21H7SaH2fSH3SHSH2gSyHeSaH6S9HS12HeSHS6HaStH3SwHpSH7SH2SH23S7HS2HS12HlSH9SaH6S6HS2HS11H4S2",
     "HSHSH7SaH6S18H4SaH6uSjH2S4H9SfHS10H8S2H3SnH2eSHfS1eHdSpnH2uS33HS5HbS5gH218S2rHdStsHhS6HpS32z",
     "H5Sg7H5a1SuHcS3H3SaH1c6SftH7SvHSaH4S29HSaH6SuH7SHaS1cH7SfHaSaHS7HSlH5SjHc0S1mH5iS2jH5SpH2Sp",
     "H18S23H5S1kHbSdH1sS4HeS5H9S5p2H15SwH2pS37H6ppS4HS7HS2HS83HfSHtS3H2SHeS4H8Sb0H1s4S2zH5SdH3S9",
     "H7SaH2SH2SH31cS71H3Sc4H6SnHfShH2nS38H1oS6uHaS13H2S1oH5S3HmS2H7SuH4S1pHlS1uH3SH3eSkHcSkHcS2f",
     "H9SpH3rS2dHS1zHS2H2SH2S2H2S4HScHSHS7HS1tHS4H2S8HS7HSsHS4HS5HSH3S7HS9gH2S84H2SfmH1jS4H1eS8HSe",
     "HS7HvoSvH6S6H79S1qH42S19HaS7H2SaH4S2H8wSuHiS18H4SaH5SHcwSsH4SaH5ySuH2SbH4SH5cSvHS3HS2HS7H2S5",
     "H9S2H68S7HS4HS2HSfHS5hH2S9H1cS1wH7SH4SaH4S2HltS1wH24S1pH5eS4HSrHS2HSH2SHSaHS4HSHSH6SH4SHSHSH",
     "S3HS2HSH2SHSHSHSHSHS2HSH2S4HS7HS4HS4HSHSaHShH5S3HS5HShH1gS2H7iS18H4S2sHcSfH2SfHSfHS11HaS4u",
     "H1kStHdS18H4S9H7S2HeS6H4aSrdH3ShH3SdH3S62H6ScH4SHfScH4S1kH8SaH6S14H8SuH2ScH4S2HeS9H13S9kH8Se",
     "H2SdH3SbH3S1lHSH4SgH2ScH4SaH7S43HS2vHslSwyoHwS3dqH2S4geH2S5rlHfShaH1wiSf2H15uS3t7H5S6juHjdl2"]

/-- The visibility of every character. -/
def visibility : Table := .ofText visibilityText

/-- Whether a character can be seen. -/
def isVisible (c : Char) : Bool := visibility.kindOf c = 'S'

end Tenancy.Unicode
