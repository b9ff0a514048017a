/-!
# Emoji symbols: names from T to Z

The symbols whose names start with one of the letters T to Z or with no letter, in the order
of their names.
-/

namespace Pinpoint.Terminal.Emoji

/-- The symbols whose names start with `t`. -/
def symbolsT : List (String × String) :=
  [("t-rex", "🦖"), ("t-shirt", "👕"), ("table_tennis_paddle_and_ball", "🏓"), ("taco", "🌮"),
   ("tada", "🎉"), ("takeout_box", "🥡"), ("tanabata_tree", "🎋"), ("tangerine", "🍊"), ("taurus", "♉"),
   ("taxi", "🚕"), ("tea", "🍵"), ("teacup_without_handle", "🍵"), ("tear-off_calendar", "📆"),
   ("teddy_bear", "🧸"), ("telephone", "☎"), ("telephone_receiver", "📞"), ("telescope", "🔭"),
   ("television", "📺"), ("ten", "🔟"), ("ten-thirty", "🕥"), ("ten_o’clock", "🕙"), ("tennis", "🎾"),
   ("tent", "⛺"), ("test_tube", "🧪"), ("thermometer", "🌡"), ("thinking_face", "🤔"),
   ("thought_balloon", "💭"), ("thread", "🧵"), ("three", "3\uFE0F\u20E3"), ("three-thirty", "🕞"),
   ("three_button_mouse", "🖱"), ("three_o’clock", "🕒"), ("thumbs_down", "👎"), ("thumbs_up", "👍"),
   ("thumbsdown", "👎"), ("thumbsup", "👍"), ("thunder_cloud_and_rain", "⛈"), ("ticket", "🎫"),
   ("tiger", "🐯"), ("tiger2", "🐅"), ("tiger_face", "🐯"), ("timer_clock", "⏲"), ("tired_face", "😫"),
   ("tm", "™"), ("toilet", "🚽"), ("tokyo_tower", "🗼"), ("tomato", "🍅"), ("tongue", "👅"),
   ("toolbox", "🧰"), ("tooth", "🦷"), ("top", "🔝"), ("top_arrow", "🔝"), ("top_hat", "🎩"),
   ("tophat", "🎩"), ("tornado", "🌪"), ("trackball", "🖲"), ("tractor", "🚜"), ("trade_mark", "™"),
   ("traffic_light", "🚥"), ("train", "🚋"), ("train2", "🚆"), ("tram", "🚊"), ("tram_car", "🚋"),
   ("triangular_flag", "🚩"), ("triangular_flag_on_post", "🚩"), ("triangular_ruler", "📐"),
   ("trident", "🔱"), ("trident_emblem", "🔱"), ("triumph", "😤"), ("trolleybus", "🚎"),
   ("trophy", "🏆"), ("tropical_drink", "🍹"), ("tropical_fish", "🐠"), ("truck", "🚚"),
   ("trumpet", "🎺"), ("tshirt", "👕"), ("tulip", "🌷"), ("tumbler_glass", "🥃"), ("turkey", "🦃"),
   ("turtle", "🐢"), ("tv", "📺"), ("twelve-thirty", "🕧"), ("twelve_o’clock", "🕛"),
   ("twisted_rightwards_arrows", "🔀"), ("two", "2\uFE0F\u20E3"), ("two-hump_camel", "🐫"),
   ("two-thirty", "🕝"), ("two_hearts", "💕"), ("two_men_holding_hands", "👬"), ("two_o’clock", "🕑"),
   ("two_women_holding_hands", "👭")]

/-- The symbols whose names start with `u`. -/
def symbolsU : List (String × String) :=
  [("u5272", "🈹"), ("u5408", "🈴"), ("u55b6", "🈺"), ("u6307", "🈯"), ("u6708", "🈷"), ("u6709", "🈶"),
   ("u6e80", "🈵"), ("u7121", "🈚"), ("u7533", "🈸"), ("u7981", "🈲"), ("u7a7a", "🈳"),
   ("umbrella", "☂"), ("umbrella_on_ground", "⛱"), ("umbrella_with_rain_drops", "☔"),
   ("unamused", "😒"), ("unamused_face", "😒"), ("underage", "🔞"), ("unicorn_face", "🦄"),
   ("unlock", "🔓"), ("unlocked", "🔓"), ("up", "🆙"), ("up!_button", "🆙"), ("up-down_arrow", "↕"),
   ("up-left_arrow", "↖"), ("up-right_arrow", "↗"), ("up_arrow", "⬆"), ("upside-down_face", "🙃"),
   ("upside__down_face", "🙃"), ("upwards_button", "🔼")]

/-- The symbols whose names start with `v`. -/
def symbolsV : List (String × String) :=
  [("v", "✌"), ("vampire", "🧛"), ("vertical_traffic_light", "🚦"), ("vhs", "📼"),
   ("vibration_mode", "📳"), ("victory_hand", "✌"), ("video_camera", "📹"), ("video_game", "🎮"),
   ("videocassette", "📼"), ("violin", "🎻"), ("virgo", "♍"), ("volcano", "🌋"), ("volleyball", "🏐"),
   ("vs", "🆚"), ("vs_button", "🆚"), ("vulcan_salute", "🖖")]

/-- The symbols whose names start with `w`. -/
def symbolsW : List (String × String) :=
  [("waffle", "🧇"), ("walking", "🚶"), ("waning_crescent_moon", "🌘"), ("waning_gibbous_moon", "🌖"),
   ("warning", "⚠"), ("wastebasket", "🗑"), ("watch", "⌚"), ("water_buffalo", "🐃"),
   ("water_closet", "🚾"), ("water_wave", "🌊"), ("watermelon", "🍉"), ("wave", "👋"),
   ("waving_black_flag", "🏴"), ("waving_hand", "👋"), ("waving_white_flag", "🏳"), ("wavy_dash", "〰"),
   ("waxing_crescent_moon", "🌒"), ("waxing_gibbous_moon", "🌔"), ("wc", "🚾"), ("weary", "😩"),
   ("weary_cat_face", "🙀"), ("weary_face", "😩"), ("wedding", "💒"), ("weight_lifter", "🏋"),
   ("whale", "🐳"), ("whale2", "🐋"), ("wheel_of_dharma", "☸"), ("wheelchair", "♿"),
   ("wheelchair_symbol", "♿"), ("white-haired_man", "👨\u200D🦳"), ("white-haired_woman", "👩\u200D🦳"),
   ("white_check_mark", "✅"), ("white_circle", "⚪"), ("white_exclamation_mark", "❕"),
   ("white_flag", "🏳"), ("white_flower", "💮"), ("white_frowning_face", "☹"), ("white_hair", "🦳"),
   ("white_heart", "🤍"), ("white_heavy_check_mark", "✅"), ("white_large_square", "⬜"),
   ("white_medium-small_square", "◽"), ("white_medium_small_square", "◽"),
   ("white_medium_square", "◻"), ("white_medium_star", "⭐"), ("white_question_mark", "❔"),
   ("white_small_square", "▫"), ("white_square_button", "🔳"), ("white_sun_behind_cloud", "🌥"),
   ("white_sun_behind_cloud_with_rain", "🌦"), ("white_sun_with_small_cloud", "🌤"),
   ("wilted_flower", "🥀"), ("wind_blowing_face", "🌬"), ("wind_chime", "🎐"), ("wind_face", "🌬"),
   ("wine_glass", "🍷"), ("wink", "😉"), ("winking_face", "😉"), ("winking_face_with_tongue", "😜"),
   ("wolf", "🐺"), ("wolf_face", "🐺"), ("woman", "👩"), ("woman_artist", "👩\u200D🎨"),
   ("woman_astronaut", "👩\u200D🚀"), ("woman_biking", "🚴\u200D♀\uFE0F"),
   ("woman_bouncing_ball", "⛹\uFE0F\u200D♀\uFE0F"), ("woman_bowing", "🙇\u200D♀\uFE0F"),
   ("woman_cartwheeling", "🤸\u200D♀\uFE0F"), ("woman_climbing", "🧗\u200D♀\uFE0F"),
   ("woman_construction_worker", "👷\u200D♀\uFE0F"), ("woman_cook", "👩\u200D🍳"),
   ("woman_dancing", "💃"), ("woman_detective", "🕵\uFE0F\u200D♀\uFE0F"),
   ("woman_elf", "🧝\u200D♀\uFE0F"), ("woman_facepalming", "🤦\u200D♀\uFE0F"),
   ("woman_factory_worker", "👩\u200D🏭"), ("woman_fairy", "🧚\u200D♀\uFE0F"),
   ("woman_farmer", "👩\u200D🌾"), ("woman_firefighter", "👩\u200D🚒"),
   ("woman_frowning", "🙍\u200D♀\uFE0F"), ("woman_genie", "🧞\u200D♀\uFE0F"),
   ("woman_gesturing_no", "🙅\u200D♀\uFE0F"), ("woman_gesturing_ok", "🙆\u200D♀\uFE0F"),
   ("woman_getting_haircut", "💇\u200D♀\uFE0F"), ("woman_getting_massage", "💆\u200D♀\uFE0F"),
   ("woman_golfing", "🏌\uFE0F\u200D♀\uFE0F"), ("woman_guard", "💂\u200D♀\uFE0F"),
   ("woman_health_worker", "👩\u200D⚕\uFE0F"), ("woman_in_lotus_position", "🧘\u200D♀\uFE0F"),
   ("woman_in_manual_wheelchair", "👩\u200D🦽"), ("woman_in_motorized_wheelchair", "👩\u200D🦼"),
   ("woman_in_steamy_room", "🧖\u200D♀\uFE0F"), ("woman_judge", "👩\u200D⚖\uFE0F"),
   ("woman_juggling", "🤹\u200D♀\uFE0F"), ("woman_lifting_weights", "🏋\uFE0F\u200D♀\uFE0F"),
   ("woman_mage", "🧙\u200D♀\uFE0F"), ("woman_mechanic", "👩\u200D🔧"),
   ("woman_mountain_biking", "🚵\u200D♀\uFE0F"), ("woman_office_worker", "👩\u200D💼"),
   ("woman_pilot", "👩\u200D✈\uFE0F"), ("woman_playing_handball", "🤾\u200D♀\uFE0F"),
   ("woman_playing_water_polo", "🤽\u200D♀\uFE0F"), ("woman_police_officer", "👮\u200D♀\uFE0F"),
   ("woman_pouting", "🙎\u200D♀\uFE0F"), ("woman_raising_hand", "🙋\u200D♀\uFE0F"),
   ("woman_rowing_boat", "🚣\u200D♀\uFE0F"), ("woman_running", "🏃\u200D♀\uFE0F"),
   ("woman_scientist", "👩\u200D🔬"), ("woman_shrugging", "🤷\u200D♀\uFE0F"),
   ("woman_singer", "👩\u200D🎤"), ("woman_student", "👩\u200D🎓"), ("woman_surfing", "🏄\u200D♀\uFE0F"),
   ("woman_swimming", "🏊\u200D♀\uFE0F"), ("woman_teacher", "👩\u200D🏫"),
   ("woman_technologist", "👩\u200D💻"), ("woman_tipping_hand", "💁\u200D♀\uFE0F"),
   ("woman_vampire", "🧛\u200D♀\uFE0F"), ("woman_walking", "🚶\u200D♀\uFE0F"),
   ("woman_wearing_turban", "👳\u200D♀\uFE0F"), ("woman_with_headscarf", "🧕"),
   ("woman_with_probing_cane", "👩\u200D🦯"), ("woman_zombie", "🧟\u200D♀\uFE0F"),
   ("womans_clothes", "👚"), ("womans_hat", "👒"), ("woman’s_boot", "👢"), ("woman’s_clothes", "👚"),
   ("woman’s_hat", "👒"), ("woman’s_sandal", "👡"), ("women_with_bunny_ears", "👯\u200D♀\uFE0F"),
   ("women_wrestling", "🤼\u200D♀\uFE0F"), ("womens", "🚺"), ("women’s_room", "🚺"),
   ("woozy_face", "🥴"), ("world_map", "🗺"), ("worried", "😟"), ("worried_face", "😟"),
   ("wrapped_gift", "🎁"), ("wrench", "🔧"), ("writing_hand", "✍")]

/-- The symbols whose names start with `x`. -/
def symbolsX : List (String × String) :=
  [("x", "❌")]

/-- The symbols whose names start with `y`. -/
def symbolsY : List (String × String) :=
  [("yarn", "🧶"), ("yawning_face", "🥱"), ("yellow_circle", "🟡"), ("yellow_heart", "💛"),
   ("yellow_square", "🟨"), ("yen", "💴"), ("yen_banknote", "💴"), ("yin_yang", "☯"), ("yo-yo", "🪀"),
   ("yum", "😋")]

/-- The symbols whose names start with `z`. -/
def symbolsZ : List (String × String) :=
  [("zany_face", "🤪"), ("zap", "⚡"), ("zebra", "🦓"), ("zero", "0\uFE0F\u20E3"),
   ("zipper-mouth_face", "🤐"), ("zipper__mouth_face", "🤐"), ("zombie", "🧟"), ("zzz", "💤")]

/-- The symbols whose names start with a digit or a sign. -/
def otherSymbols : List (String × String) :=
  [("+1", "👍"), ("-1", "👎"), ("100", "💯"), ("1234", "🔢"), ("1st_place_medal", "🥇"),
   ("2nd_place_medal", "🥈"), ("3rd_place_medal", "🥉"), ("8ball", "🎱"), ("__1", "👎")]

end Pinpoint.Terminal.Emoji
