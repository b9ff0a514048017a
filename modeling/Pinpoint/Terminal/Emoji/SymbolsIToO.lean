/-!
# Emoji symbols: names from I to O

The symbols whose names start with one of the letters I to O, in the order
of their names.
-/

namespace Pinpoint.Terminal.Emoji

/-- The symbols whose names start with `i`. -/
def symbolsI : List (String × String) :=
  [("ice", "🧊"), ("ice_cream", "🍨"), ("ice_hockey", "🏒"), ("ice_hockey_stick_and_puck", "🏒"),
   ("ice_skate", "⛸"), ("icecream", "🍦"), ("id", "🆔"), ("id_button", "🆔"),
   ("ideograph_advantage", "🉐"), ("imp", "👿"), ("inbox_tray", "📥"), ("incoming_envelope", "📨"),
   ("index_pointing_up", "☝"), ("infinity", "♾"), ("information", "ℹ"),
   ("information_desk_person", "💁"), ("information_source", "ℹ"), ("innocent", "😇"),
   ("input_latin_letters", "🔤"), ("input_latin_lowercase", "🔡"), ("input_latin_uppercase", "🔠"),
   ("input_numbers", "🔢"), ("input_symbols", "🔣"), ("interrobang", "⁉"), ("iphone", "📱"),
   ("izakaya_lantern", "🏮")]

/-- The symbols whose names start with `j`. -/
def symbolsJ : List (String × String) :=
  [("jack-o-lantern", "🎃"), ("jack_o_lantern", "🎃"), ("japan", "🗾"),
   ("japanese_acceptable_button", "🉑"), ("japanese_application_button", "🈸"),
   ("japanese_bargain_button", "🉐"), ("japanese_castle", "🏯"),
   ("japanese_congratulations_button", "㊗"), ("japanese_discount_button", "🈹"),
   ("japanese_dolls", "🎎"), ("japanese_free_of_charge_button", "🈚"), ("japanese_goblin", "👺"),
   ("japanese_here_button", "🈁"), ("japanese_monthly_amount_button", "🈷"),
   ("japanese_no_vacancy_button", "🈵"), ("japanese_not_free_of_charge_button", "🈶"),
   ("japanese_ogre", "👹"), ("japanese_open_for_business_button", "🈺"),
   ("japanese_passing_grade_button", "🈴"), ("japanese_post_office", "🏣"),
   ("japanese_prohibited_button", "🈲"), ("japanese_reserved_button", "🈯"),
   ("japanese_secret_button", "㊙"), ("japanese_service_charge_button", "🈂"),
   ("japanese_symbol_for_beginner", "🔰"), ("japanese_vacancy_button", "🈳"), ("jeans", "👖"),
   ("jigsaw", "🧩"), ("joker", "🃏"), ("joy", "😂"), ("joy_cat", "😹"), ("joystick", "🕹")]

/-- The symbols whose names start with `k`. -/
def symbolsK : List (String × String) :=
  [("kaaba", "🕋"), ("kangaroo", "🦘"), ("key", "🔑"), ("keyboard", "⌨"),
   ("keycap_#", "#\uFE0F\u20E3"), ("keycap_*", "*\uFE0F\u20E3"), ("keycap_0", "0\uFE0F\u20E3"),
   ("keycap_1", "1\uFE0F\u20E3"), ("keycap_10", "🔟"), ("keycap_2", "2\uFE0F\u20E3"),
   ("keycap_3", "3\uFE0F\u20E3"), ("keycap_4", "4\uFE0F\u20E3"), ("keycap_5", "5\uFE0F\u20E3"),
   ("keycap_6", "6\uFE0F\u20E3"), ("keycap_7", "7\uFE0F\u20E3"), ("keycap_8", "8\uFE0F\u20E3"),
   ("keycap_9", "9\uFE0F\u20E3"), ("keycap_asterisk", "*\u20E3"), ("keycap_digit_eight", "8\u20E3"),
   ("keycap_digit_five", "5\u20E3"), ("keycap_digit_four", "4\u20E3"),
   ("keycap_digit_nine", "9\u20E3"), ("keycap_digit_one", "1\u20E3"),
   ("keycap_digit_seven", "7\u20E3"), ("keycap_digit_six", "6\u20E3"),
   ("keycap_digit_three", "3\u20E3"), ("keycap_digit_two", "2\u20E3"),
   ("keycap_digit_zero", "0\u20E3"), ("keycap_number_sign", "#\u20E3"), ("kick_scooter", "🛴"),
   ("kimono", "👘"), ("kiss", "💋"), ("kiss_man_man", "👨\u200D❤\uFE0F\u200D💋\u200D👨"),
   ("kiss_mark", "💋"), ("kiss_woman_man", "👩\u200D❤\uFE0F\u200D💋\u200D👨"),
   ("kiss_woman_woman", "👩\u200D❤\uFE0F\u200D💋\u200D👩"), ("kissing", "😗"), ("kissing_cat", "😽"),
   ("kissing_cat_face", "😽"), ("kissing_closed_eyes", "😚"), ("kissing_face", "😗"),
   ("kissing_face_with_closed_eyes", "😚"), ("kissing_face_with_smiling_eyes", "😙"),
   ("kissing_heart", "😘"), ("kissing_smiling_eyes", "😙"), ("kitchen_knife", "🔪"), ("kite", "🪁"),
   ("kiwi_fruit", "🥝"), ("knife", "🔪"), ("koala", "🐨"), ("koko", "🈁")]

/-- The symbols whose names start with `l`. -/
def symbolsL : List (String × String) :=
  [("lab_coat", "🥼"), ("label", "🏷"), ("lacrosse", "🥍"), ("lady_beetle", "🐞"), ("lantern", "🏮"),
   ("laptop_computer", "💻"), ("large_blue_circle", "🔵"), ("large_blue_diamond", "🔷"),
   ("large_orange_diamond", "🔶"), ("last_quarter_moon", "🌗"), ("last_quarter_moon_face", "🌜"),
   ("last_quarter_moon_with_face", "🌜"), ("last_track_button", "⏮"), ("latin_cross", "✝"),
   ("laughing", "😆"), ("leaf_fluttering_in_wind", "🍃"), ("leafy_green", "🥬"), ("leaves", "🍃"),
   ("ledger", "📒"), ("left-facing_fist", "🤛"), ("left-right_arrow", "↔"), ("left_arrow", "⬅"),
   ("left_arrow_curving_right", "↪"), ("left_luggage", "🛅"), ("left_right_arrow", "↔"),
   ("left_speech_bubble", "🗨"), ("leftwards_arrow_with_hook", "↩"), ("leg", "🦵"), ("lemon", "🍋"),
   ("leo", "♌"), ("leopard", "🐆"), ("level_slider", "🎚"), ("libra", "♎"), ("light_bulb", "💡"),
   ("light_rail", "🚈"), ("light_skin_tone", "🏻"), ("link", "🔗"), ("linked_paperclips", "🖇"),
   ("lion_face", "🦁"), ("lips", "👄"), ("lipstick", "💄"), ("litter_in_bin_sign", "🚮"),
   ("lizard", "🦎"), ("llama", "🦙"), ("lobster", "🦞"), ("lock", "🔒"), ("lock_with_ink_pen", "🔏"),
   ("locked", "🔒"), ("locked_with_key", "🔐"), ("locked_with_pen", "🔏"), ("locomotive", "🚂"),
   ("lollipop", "🍭"), ("loop", "➿"), ("lotion_bottle", "🧴"), ("loud_sound", "🔊"),
   ("loudly_crying_face", "😭"), ("loudspeaker", "📢"), ("love-you_gesture", "🤟"),
   ("love_hotel", "🏩"), ("love_letter", "💌"), ("low_brightness", "🔅"),
   ("lower_left_ballpoint_pen", "🖊"), ("lower_left_crayon", "🖍"), ("lower_left_fountain_pen", "🖋"),
   ("lower_left_paintbrush", "🖌"), ("luggage", "🧳"), ("lying_face", "🤥")]

/-- The symbols whose names start with `m`. -/
def symbolsM : List (String × String) :=
  [("m", "Ⓜ"), ("mag", "🔍"), ("mag_right", "🔎"), ("mage", "🧙"), ("magnet", "🧲"),
   ("magnifying_glass_tilted_left", "🔍"), ("magnifying_glass_tilted_right", "🔎"), ("mahjong", "🀄"),
   ("mahjong_red_dragon", "🀄"), ("mailbox", "📫"), ("mailbox_closed", "📪"),
   ("mailbox_with_mail", "📬"), ("mailbox_with_no_mail", "📭"), ("male_sign", "♂"), ("man", "👨"),
   ("man_and_woman_holding_hands", "👫"), ("man_artist", "👨\u200D🎨"), ("man_astronaut", "👨\u200D🚀"),
   ("man_biking", "🚴\u200D♂\uFE0F"), ("man_bouncing_ball", "⛹\uFE0F\u200D♂\uFE0F"),
   ("man_bowing", "🙇\u200D♂\uFE0F"), ("man_cartwheeling", "🤸\u200D♂\uFE0F"),
   ("man_climbing", "🧗\u200D♂\uFE0F"), ("man_construction_worker", "👷\u200D♂\uFE0F"),
   ("man_cook", "👨\u200D🍳"), ("man_dancing", "🕺"), ("man_detective", "🕵\uFE0F\u200D♂\uFE0F"),
   ("man_elf", "🧝\u200D♂\uFE0F"), ("man_facepalming", "🤦\u200D♂\uFE0F"),
   ("man_factory_worker", "👨\u200D🏭"), ("man_fairy", "🧚\u200D♂\uFE0F"), ("man_farmer", "👨\u200D🌾"),
   ("man_firefighter", "👨\u200D🚒"), ("man_frowning", "🙍\u200D♂\uFE0F"),
   ("man_genie", "🧞\u200D♂\uFE0F"), ("man_gesturing_no", "🙅\u200D♂\uFE0F"),
   ("man_gesturing_ok", "🙆\u200D♂\uFE0F"), ("man_getting_haircut", "💇\u200D♂\uFE0F"),
   ("man_getting_massage", "💆\u200D♂\uFE0F"), ("man_golfing", "🏌\uFE0F\u200D♂\uFE0F"),
   ("man_guard", "💂\u200D♂\uFE0F"), ("man_health_worker", "👨\u200D⚕\uFE0F"),
   ("man_in_business_suit_levitating", "🕴"), ("man_in_lotus_position", "🧘\u200D♂\uFE0F"),
   ("man_in_manual_wheelchair", "👨\u200D🦽"), ("man_in_motorized_wheelchair", "👨\u200D🦼"),
   ("man_in_steamy_room", "🧖\u200D♂\uFE0F"), ("man_in_suit_levitating", "🕴"),
   ("man_in_tuxedo", "🤵"), ("man_judge", "👨\u200D⚖\uFE0F"), ("man_juggling", "🤹\u200D♂\uFE0F"),
   ("man_lifting_weights", "🏋\uFE0F\u200D♂\uFE0F"), ("man_mage", "🧙\u200D♂\uFE0F"),
   ("man_mechanic", "👨\u200D🔧"), ("man_mountain_biking", "🚵\u200D♂\uFE0F"),
   ("man_office_worker", "👨\u200D💼"), ("man_pilot", "👨\u200D✈\uFE0F"),
   ("man_playing_handball", "🤾\u200D♂\uFE0F"), ("man_playing_water_polo", "🤽\u200D♂\uFE0F"),
   ("man_police_officer", "👮\u200D♂\uFE0F"), ("man_pouting", "🙎\u200D♂\uFE0F"),
   ("man_raising_hand", "🙋\u200D♂\uFE0F"), ("man_rowing_boat", "🚣\u200D♂\uFE0F"),
   ("man_running", "🏃\u200D♂\uFE0F"), ("man_scientist", "👨\u200D🔬"),
   ("man_shrugging", "🤷\u200D♂\uFE0F"), ("man_singer", "👨\u200D🎤"), ("man_student", "👨\u200D🎓"),
   ("man_surfing", "🏄\u200D♂\uFE0F"), ("man_swimming", "🏊\u200D♂\uFE0F"),
   ("man_teacher", "👨\u200D🏫"), ("man_technologist", "👨\u200D💻"),
   ("man_tipping_hand", "💁\u200D♂\uFE0F"), ("man_vampire", "🧛\u200D♂\uFE0F"),
   ("man_walking", "🚶\u200D♂\uFE0F"), ("man_wearing_turban", "👳\u200D♂\uFE0F"),
   ("man_with_chinese_cap", "👲"), ("man_with_gua_pi_mao", "👲"),
   ("man_with_probing_cane", "👨\u200D🦯"), ("man_with_turban", "👳"),
   ("man_zombie", "🧟\u200D♂\uFE0F"), ("mango", "🥭"), ("mans_shoe", "👞"), ("mantelpiece_clock", "🕰"),
   ("manual_wheelchair", "🦽"), ("man’s_shoe", "👞"), ("map_of_japan", "🗾"), ("maple_leaf", "🍁"),
   ("martial_arts_uniform", "🥋"), ("mask", "😷"), ("massage", "💆"), ("mate", "🧉"),
   ("meat_on_bone", "🍖"), ("mechanical_arm", "🦾"), ("mechanical_leg", "🦿"), ("medical_symbol", "⚕"),
   ("medium_dark_skin_tone", "🏾"), ("medium_light_skin_tone", "🏼"), ("medium_skin_tone", "🏽"),
   ("mega", "📣"), ("megaphone", "📣"), ("melon", "🍈"), ("memo", "📝"),
   ("men_with_bunny_ears", "👯\u200D♂\uFE0F"), ("men_wrestling", "🤼\u200D♂\uFE0F"), ("menorah", "🕎"),
   ("menorah_with_nine_branches", "🕎"), ("mens", "🚹"), ("men’s_room", "🚹"),
   ("mermaid", "🧜\u200D♀\uFE0F"), ("merman", "🧜\u200D♂\uFE0F"), ("merperson", "🧜"), ("metro", "🚇"),
   ("microbe", "🦠"), ("microphone", "🎤"), ("microscope", "🔬"), ("middle_finger", "🖕"),
   ("military_medal", "🎖"), ("milky_way", "🌌"), ("minibus", "🚐"), ("minidisc", "💽"), ("moai", "🗿"),
   ("mobile_phone", "📱"), ("mobile_phone_off", "📴"), ("mobile_phone_with_arrow", "📲"),
   ("money-mouth_face", "🤑"), ("money__mouth_face", "🤑"), ("money_bag", "💰"),
   ("money_with_wings", "💸"), ("moneybag", "💰"), ("monkey", "🐒"), ("monkey_face", "🐵"),
   ("monorail", "🚝"), ("moon", "🌔"), ("moon_cake", "🥮"), ("moon_viewing_ceremony", "🎑"),
   ("mortar_board", "🎓"), ("mosque", "🕌"), ("mosquito", "🦟"), ("motor_boat", "🛥"),
   ("motor_scooter", "🛵"), ("motorcycle", "🏍"), ("motorized_wheelchair", "🦼"), ("motorway", "🛣"),
   ("mount_fuji", "🗻"), ("mountain", "⛰"), ("mountain_bicyclist", "🚵"), ("mountain_cableway", "🚠"),
   ("mountain_railway", "🚞"), ("mouse", "🐭"), ("mouse2", "🐁"), ("mouse_face", "🐭"), ("mouth", "👄"),
   ("movie_camera", "🎥"), ("moyai", "🗿"), ("mrs._claus", "🤶"), ("muscle", "💪"), ("mushroom", "🍄"),
   ("musical_keyboard", "🎹"), ("musical_note", "🎵"), ("musical_notes", "🎶"), ("musical_score", "🎼"),
   ("mute", "🔇"), ("muted_speaker", "🔇")]

/-- The symbols whose names start with `n`. -/
def symbolsN : List (String × String) :=
  [("nail_care", "💅"), ("nail_polish", "💅"), ("name_badge", "📛"), ("national_park", "🏞"),
   ("nauseated_face", "🤢"), ("nazar_amulet", "🧿"), ("necktie", "👔"),
   ("negative_squared_cross_mark", "❎"), ("nerd_face", "🤓"), ("neutral_face", "😐"), ("new", "🆕"),
   ("new_button", "🆕"), ("new_moon", "🌑"), ("new_moon_face", "🌚"), ("new_moon_with_face", "🌚"),
   ("newspaper", "📰"), ("next_track_button", "⏭"), ("ng", "🆖"), ("ng_button", "🆖"),
   ("night_with_stars", "🌃"), ("nine", "9\uFE0F\u20E3"), ("nine-thirty", "🕤"),
   ("nine_o’clock", "🕘"), ("no_bell", "🔕"), ("no_bicycles", "🚳"), ("no_entry", "⛔"),
   ("no_entry_sign", "🚫"), ("no_good", "🙅"), ("no_littering", "🚯"), ("no_mobile_phones", "📵"),
   ("no_mouth", "😶"), ("no_one_under_eighteen", "🔞"), ("no_pedestrians", "🚷"), ("no_smoking", "🚭"),
   ("non-potable_water", "🚱"), ("non__potable_water", "🚱"), ("nose", "👃"), ("notebook", "📓"),
   ("notebook_with_decorative_cover", "📔"), ("notes", "🎶"), ("nut_and_bolt", "🔩")]

/-- The symbols whose names start with `o`. -/
def symbolsO : List (String × String) :=
  [("o", "⭕"), ("o2", "🅾"), ("o_button_(blood_type)", "🅾"), ("ocean", "🌊"), ("octopus", "🐙"),
   ("oden", "🍢"), ("office", "🏢"), ("office_building", "🏢"), ("ogre", "👹"), ("oil_drum", "🛢"),
   ("ok", "🆗"), ("ok_button", "🆗"), ("ok_hand", "👌"), ("ok_woman", "🙆"), ("old_key", "🗝"),
   ("old_man", "👴"), ("old_woman", "👵"), ("older_adult", "🧓"), ("older_man", "👴"),
   ("older_woman", "👵"), ("om", "🕉"), ("om_symbol", "🕉"), ("on", "🔛"), ("on!_arrow", "🔛"),
   ("oncoming_automobile", "🚘"), ("oncoming_bus", "🚍"), ("oncoming_fist", "👊"),
   ("oncoming_police_car", "🚔"), ("oncoming_taxi", "🚖"), ("one", "1\uFE0F\u20E3"),
   ("one-piece_swimsuit", "🩱"), ("one-thirty", "🕜"), ("one_o’clock", "🕐"), ("onion", "🧅"),
   ("open_book", "📖"), ("open_file_folder", "📂"), ("open_hands", "👐"),
   ("open_mailbox_with_lowered_flag", "📭"), ("open_mailbox_with_raised_flag", "📬"),
   ("open_mouth", "😮"), ("ophiuchus", "⛎"), ("optical_disk", "💿"), ("orange_book", "📙"),
   ("orange_circle", "🟠"), ("orange_heart", "🧡"), ("orange_square", "🟧"), ("orangutan", "🦧"),
   ("orthodox_cross", "☦"), ("otter", "🦦"), ("outbox_tray", "📤"), ("owl", "🦉"), ("ox", "🐂"),
   ("oyster", "🦪")]

end Pinpoint.Terminal.Emoji
