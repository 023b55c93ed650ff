/-! # Pictographs

The short names of pictographs, as they are typed between colons.
-/

namespace TaggedPage.Transliteration

/-- Pictographs, each with its name behind it. -/
def pictographText : List String :=
  ["⌚ watch ⌛ hourglass ⌨ keyboard ⏏ eject ⏩ fast_forward ⏪ rewind ⏫ arrow_double_up",
   "⏬ arrow_double_down ⏰ alarm_clock ⏱ stopwatch ⏲ timer_clock ⏳ hourglass_flowing_sand",
   "◽ white_medium_small_square ◾ black_medium_small_square ☀ sun ☁ cloud ☂ umbrella ☃ snowman",
   "☄ comet ☎ telephone ☔ umbrella ☕ coffee ☘ shamrock ☝ point_up ☠ skull_and_crossbones",
   "☢ radioactive ☣ biohazard ☦ orthodox_cross ☪ star_and_crescent ☮ peace ☯ yin_yang",
   "☸ wheel_of_dharma ☹ frowning_face ☺ smiling_face ♀ female ♂ male ♈ aries ♉ taurus ♊ gemini",
   "♋ cancer ♌ leo ♍ virgo ♎ libra ♏ scorpius ♐ sagittarius ♑ capricorn ♒ aquarius ♓ pisces",
   "♟ pawn ♠ spades ♣ clubs ♥ hearts ♦ diamonds ♨ hot_springs ♻ recycle ♾ infinity",
   "♿ wheelchair ⚒ hammer_and_pick ⚓ anchor ⚔ crossed_swords ⚕ medical_symbol ⚖ scales",
   "⚗ alembic ⚙ gear ⚛ atom ⚜ fleur_de_lis ⚠ warning ⚡ zap ⚧ transgender_symbol ⚪ white_circle",
   "⚫ black_circle ⚰ coffin ⚱ funeral_urn ⚽ soccer ⚾ baseball ⛄ snowman ⛅ partly_sunny",
   "⛈ cloud_with_lightning_and_rain ⛎ ophiuchus ⛏ pick ⛑ rescue_worker_helmet ⛓ chains",
   "⛔ no_entry ⛩ shinto_shrine ⛪ church ⛰ mountain ⛱ umbrella_on_ground ⛲ fountain ⛳ golf",
   "⛴ ferry ⛵ boat ⛷ skier ⛸ ice_skate ⛹ bouncing_ball_person ⛺ tent ⛽ fuelpump ✂ scissors",
   "✅ white_check_mark ✈ airplane ✉ envelope ✊ fist_raised ✋ hand ✌ victory_hand",
   "✍ writing_hand ✏ pencil ✒ nib ✝ latin_cross ✡ star_of_david ✨ sparkles ❄ snowflake",
   "❇ sparkle ❌ x ❎ negative_squared_cross_mark ❓ question ❔ grey_question ❕ grey_exclamation",
   "❗ exclamation ❣ heavy_heart_exclamation ❤ heart ➕ heavy_plus_sign ➖ heavy_minus_sign",
   "➗ heavy_division_sign ➰ curly_loop ➿ loop ⬛ black_large_square ⬜ white_large_square ⭐ star",
   "⭕ o 🀄 mahjong 🃏 black_joker 🆎 ab 🆑 cl 🆒 cool 🆓 free 🆔 id 🆕 new 🆖 ng 🆗 ok 🆘 sos 🆙 up 🆚 vs",
   "🈁 koko 🈂 sa 🈚 u7121 🈯 u6307 🈲 u7981 🈳 u7a7a 🈴 u5408 🈵 u6e80 🈶 u6709 🈷 yue 🈸 u7533 🈹 u5272",
   "🈺 u55b6 🉐 ideograph_advantage 🉑 accept 🌀 cyclone 🌁 foggy 🌂 closed_umbrella",
   "🌃 night_with_stars 🌄 sunrise_over_mountains 🌅 sunrise 🌆 city_sunset 🌇 city_sunrise",
   "🌈 rainbow 🌉 bridge_at_night 🌊 ocean 🌋 volcano 🌌 milky_way 🌍 earth_africa 🌎 earth_americas",
   "🌏 earth_asia 🌐 globe_with_meridians 🌑 new_moon 🌒 waxing_crescent_moon 🌓 first_quarter_moon",
   "🌔 moon 🌕 full_moon 🌖 waning_gibbous_moon 🌗 last_quarter_moon 🌘 waning_crescent_moon",
   "🌙 crescent_moon 🌚 new_moon_with_face 🌛 first_quarter_moon_with_face",
   "🌜 last_quarter_moon_with_face 🌝 full_moon_with_face 🌞 sun_with_face 🌟 star2 🌠 stars",
   "🌡 thermometer 🌤 sun_behind_small_cloud 🌥 sun_behind_large_cloud 🌦 sun_behind_rain_cloud",
   "🌧 cloud_with_rain 🌨 cloud_with_snow 🌩 cloud_with_lightning 🌪 tornado 🌫 fog 🌬 wind_face",
   "🌭 hotdog 🌮 taco 🌯 burrito 🌰 chestnut 🌱 seedling 🌲 evergreen_tree 🌳 deciduous_tree",
   "🌴 palm_tree 🌵 cactus 🌶 hot_pepper 🌷 tulip 🌸 cherry_blossom 🌹 rose 🌺 hibiscus 🌻 sunflower",
   "🌼 blossom 🌽 corn 🌾 ear_of_rice 🌿 herb 🍀 four_leaf_clover 🍁 maple_leaf 🍂 fallen_leaf",
   "🍃 leaves 🍄 mushroom 🍅 tomato 🍆 eggplant 🍇 grapes 🍈 melon 🍉 watermelon 🍊 tangerine 🍋 lemon",
   "🍌 banana 🍍 pineapple 🍎 apple 🍏 green_apple 🍐 pear 🍑 peach 🍒 cherries 🍓 strawberry",
   "🍔 hamburger 🍕 pizza 🍖 meat_on_bone 🍗 poultry_leg 🍘 rice_cracker 🍙 rice_ball 🍚 rice 🍛 curry",
   "🍜 ramen 🍝 spaghetti 🍞 bread 🍟 fries 🍠 sweet_potato 🍡 dango 🍢 oden 🍣 sushi 🍤 fried_shrimp",
   "🍥 fish_cake 🍦 icecream 🍧 shaved_ice 🍨 ice_cream 🍩 doughnut 🍪 cookie 🍫 chocolate_bar",
   "🍬 candy 🍭 lollipop 🍮 custard 🍯 honey_pot 🍰 cake 🍱 bento 🍲 stew 🍳 fried_egg",
   "🍴 fork_and_knife 🍵 tea 🍶 sake 🍷 wine_glass 🍸 cocktail 🍹 tropical_drink 🍺 beer 🍻 beers",
   "🍼 baby_bottle 🍽 plate_with_cutlery 🍾 champagne 🍿 popcorn 🎀 ribbon 🎁 gift 🎂 birthday",
   "🎃 jack_o_lantern 🎄 christmas_tree 🎅 santa 🎆 fireworks 🎇 sparkler 🎈 balloon 🎉 tada",
   "🎊 confetti_ball 🎋 tanabata_tree 🎌 crossed_flags 🎍 bamboo 🎎 dolls 🎏 flags 🎐 wind_chime",
   "🎑 rice_scene 🎒 school_satchel 🎓 mortar_board 🎖 medal_military 🎗 reminder_ribbon",
   "🎙 studio_microphone 🎚 level_slider 🎛 control_knobs 🎞 film_strip 🎟 tickets 🎠 carousel_horse",
   "🎡 ferris_wheel 🎢 roller_coaster 🎣 fishing_pole_and_fish 🎤 microphone 🎥 movie_camera",
   "🎦 cinema 🎧 headphones 🎨 art 🎩 tophat 🎪 circus_tent 🎫 ticket 🎬 clapper 🎭 performing_arts",
   "🎮 video_game 🎯 dart 🎰 slot_machine 🎱 8ball 🎲 game_die 🎳 bowling 🎴 flower_playing_cards",
   "🎵 musical_note 🎶 notes 🎷 saxophone 🎸 guitar 🎹 musical_keyboard 🎺 trumpet 🎻 violin",
   "🎼 musical_score 🎽 running_shirt_with_sash 🎾 tennis 🎿 ski 🏀 basketball 🏁 checkered_flag",
   "🏂 snowboarder 🏃 runner 🏄 surfer 🏅 medal_sports 🏆 trophy 🏇 horse_racing 🏈 football",
   "🏉 rugby_football 🏊 swimmer 🏋 weight_lifting 🏌 golfing 🏍 motorcycle 🏎 racing_car",
   "🏏 cricket_game 🏐 volleyball 🏑 field_hockey 🏒 ice_hockey 🏓 ping_pong 🏔 mountain_snow",
   "🏕 camping 🏖 beach_umbrella 🏗 building_construction 🏘 houses 🏙 cityscape 🏚 derelict_house",
   "🏛 classical_building 🏜 desert 🏝 desert_island 🏞 national_park 🏟 stadium 🏠 house",
   "🏡 house_with_garden 🏢 office 🏣 post_office 🏤 european_post_office 🏥 hospital 🏦 bank 🏧 atm",
   "🏨 hotel 🏩 love_hotel 🏪 convenience_store 🏫 school 🏬 department_store 🏭 factory",
   "🏮 izakaya_lantern 🏯 japanese_castle 🏰 european_castle 🏳 white_flag 🏴 black_flag 🏵 rosette",
   "🏷 label 🏸 badminton 🏹 bow_and_arrow 🏺 amphora 🐀 rat 🐁 mouse2 🐂 ox 🐃 water_buffalo 🐄 cow2",
   "🐅 tiger2 🐆 leopard 🐇 rabbit2 🐈 cat2 🐉 dragon 🐊 crocodile 🐋 whale2 🐌 snail 🐍 snake",
   "🐎 racehorse 🐏 ram 🐐 goat 🐑 sheep 🐒 monkey 🐓 rooster 🐔 chicken 🐕 dog2 🐖 pig2 🐗 boar",
   "🐘 elephant 🐙 octopus 🐚 shell 🐛 bug 🐜 ant 🐝 bee 🐞 lady_beetle 🐟 fish 🐠 tropical_fish",
   "🐡 blowfish 🐢 turtle 🐣 hatching_chick 🐤 baby_chick 🐥 hatched_chick 🐦 bird 🐧 penguin 🐨 koala",
   "🐩 poodle 🐪 dromedary_camel 🐫 camel 🐬 dolphin 🐭 mouse 🐮 cow 🐯 tiger 🐰 rabbit 🐱 cat",
   "🐲 dragon_face 🐳 whale 🐴 horse 🐵 monkey_face 🐶 dog 🐷 pig 🐸 frog 🐹 hamster 🐺 wolf 🐻 bear",
   "🐼 panda_face 🐽 pig_nose 🐾 feet 🐿 chipmunk 👀 eyes 👁 eye 👂 ear 👃 nose 👄 lips 👅 tongue",
   "👆 point_up_2 👇 point_down 👈 point_left 👉 point_right 👊 fist_oncoming 👋 wave 👌 ok_hand 👍 +1",
   "👎 -1 👏 clap 👐 open_hands 👑 crown 👒 womans_hat 👓 eyeglasses 👔 necktie 👕 shirt 👖 jeans",
   "👗 dress 👘 kimono 👙 bikini 👚 womans_clothes 👛 purse 👜 handbag 👝 pouch 👞 mans_shoe",
   "👟 athletic_shoe 👠 high_heel 👡 sandal 👢 boot 👣 footprints 👤 bust_in_silhouette",
   "👥 busts_in_silhouette 👦 boy 👧 girl 👨 man 👩 woman 👪 family 👫 couple 👬 two_men_holding_hands",
   "👭 two_women_holding_hands 👮 police_officer 👯 dancers 👰 person_with_veil",
   "👱 blond_haired_person 👲 man_with_gua_pi_mao 👳 person_with_turban 👴 older_man 👵 older_woman",
   "👶 baby 👷 construction_worker 👸 princess 👹 japanese_ogre 👺 japanese_goblin 👻 ghost 👼 angel",
   "👽 alien 👾 space_invader 👿 imp 💀 skull 💁 tipping_hand_person 💂 guard 💃 woman_dancing",
   "💄 lipstick 💅 nail_care 💆 massage 💇 haircut 💈 barber 💉 syringe 💊 pill 💋 kiss 💌 love_letter",
   "💍 ring 💎 gem 💏 couplekiss 💐 bouquet 💑 couple_with_heart 💒 wedding 💓 heartbeat",
   "💔 broken_heart 💕 two_hearts 💖 sparkling_heart 💗 heartpulse 💘 cupid 💙 blue_heart",
   "💚 green_heart 💛 yellow_heart 💜 purple_heart 💝 gift_heart 💞 revolving_hearts",
   "💟 heart_decoration 💠 diamond_shape_with_a_dot_inside 💡 bulb 💢 anger 💣 bomb 💤 zzz 💥 boom",
   "💦 sweat_drops 💧 droplet 💨 dash 💩 hankey 💪 muscle 💫 dizzy 💬 speech_balloon",
   "💭 thought_balloon 💮 white_flower 💯 100 💰 moneybag 💱 currency_exchange 💲 heavy_dollar_sign",
   "💳 credit_card 💴 yen 💵 dollar 💶 euro 💷 pound 💸 money_with_wings 💹 chart 💺 seat 💻 computer",
   "💼 briefcase 💽 minidisc 💾 floppy_disk 💿 cd 📀 dvd 📁 file_folder 📂 open_file_folder",
   "📃 page_with_curl 📄 page_facing_up 📅 date 📆 calendar 📇 card_index",
   "📈 chart_with_upwards_trend 📉 chart_with_downwards_trend 📊 bar_chart 📋 clipboard 📌 pushpin",
   "📍 round_pushpin 📎 paperclip 📏 straight_ruler 📐 triangular_ruler 📑 bookmark_tabs 📒 ledger",
   "📓 notebook 📔 notebook_with_decorative_cover 📕 closed_book 📖 book 📗 green_book 📘 blue_book",
   "📙 orange_book 📚 books 📛 name_badge 📜 scroll 📝 memo 📞 telephone_receiver 📟 pager 📠 fax",
   "📡 satellite 📢 loudspeaker 📣 mega 📤 outbox_tray 📥 inbox_tray 📦 package 📧 email",
   "📨 incoming_envelope 📩 envelope_with_arrow 📪 mailbox_closed 📫 mailbox 📬 mailbox_with_mail",
   "📭 mailbox_with_no_mail 📮 postbox 📯 postal_horn 📰 newspaper 📱 iphone 📲 calling",
   "📳 vibration_mode 📴 mobile_phone_off 📵 no_mobile_phones 📶 signal_strength 📷 camera",
   "📸 camera_flash 📹 video_camera 📺 tv 📻 radio 📼 vhs 📽 film_projector 📿 prayer_beads",
   "🔀 twisted_rightwards_arrows 🔁 repeat 🔂 repeat_one 🔃 arrows_clockwise",
   "🔄 arrows_counterclockwise 🔅 low_brightness 🔆 high_brightness 🔇 mute 🔈 speaker 🔉 sound",
   "🔊 loud_sound 🔋 battery 🔌 electric_plug 🔍 mag 🔎 mag_right 🔏 lock_with_ink_pen",
   "🔐 closed_lock_with_key 🔑 key 🔒 lock 🔓 unlock 🔔 bell 🔕 no_bell 🔖 bookmark 🔗 link",
   "🔘 radio_button 🔙 back 🔚 end 🔛 on 🔜 soon 🔝 top 🔞 underage 🔟 keycap_ten 🔠 capital_abcd",
   "🔡 abcd 🔢 1234 🔣 symbols 🔤 abc 🔥 fire 🔦 flashlight 🔧 wrench 🔨 hammer 🔩 nut_and_bolt 🔪 hocho",
   "🔫 gun 🔬 microscope 🔭 telescope 🔮 crystal_ball 🔯 six_pointed_star 🔰 beginner 🔱 trident",
   "🔲 black_square_button 🔳 white_square_button 🔴 red_circle 🔵 large_blue_circle",
   "🔶 large_orange_diamond 🔷 large_blue_diamond 🔸 small_orange_diamond 🔹 small_blue_diamond",
   "🔺 small_red_triangle 🔻 small_red_triangle_down 🔼 arrow_up_small 🔽 arrow_down_small 🕉 om",
   "🕊 dove 🕋 kaaba 🕌 mosque 🕍 synagogue 🕎 menorah 🕐 clock1 🕑 clock2 🕒 clock3 🕓 clock4 🕔 clock5",
   "🕕 clock6 🕖 clock7 🕗 clock8 🕘 clock9 🕙 clock10 🕚 clock11 🕛 clock12 🕜 clock130 🕝 clock230",
   "🕞 clock330 🕟 clock430 🕠 clock530 🕡 clock630 🕢 clock730 🕣 clock830 🕤 clock930 🕥 clock1030",
   "🕦 clock1130 🕧 clock1230 🕯 candle 🕰 mantelpiece_clock 🕳 hole 🕴 business_suit_levitating",
   "🕵 detective 🕶 dark_sunglasses 🕷 spider 🕸 spider_web 🕹 joystick 🕺 man_dancing 🖇 paperclips",
   "🖊 pen 🖋 fountain_pen 🖌 paintbrush 🖍 crayon 🖐 raised_hand_with_fingers_splayed",
   "🖕 middle_finger 🖖 vulcan_salute 🖤 black_heart 🖥 desktop_computer 🖨 printer",
   "🖱 computer_mouse 🖲 trackball 🖼 framed_picture 🗂 card_index_dividers 🗃 card_file_box",
   "🗄 file_cabinet 🗑 wastebasket 🗒 spiral_notepad 🗓 spiral_calendar 🗜 clamp 🗝 old_key",
   "🗞 newspaper_roll 🗡 dagger 🗣 speaking_head 🗨 left_speech_bubble 🗯 right_anger_bubble",
   "🗳 ballot_box 🗺 world_map 🗻 mount_fuji 🗼 tokyo_tower 🗽 statue_of_liberty 🗾 japan 🗿 moyai",
   "😀 grinning 😁 grin 😂 joy 😃 smiley 😄 smile 😅 sweat_smile 😆 laughing 😇 innocent 😈 smiling_imp",
   "😉 wink 😊 blush 😋 yum 😌 relieved 😍 heart_eyes 😎 sunglasses 😏 smirk 😐 neutral_face",
   "😑 expressionless 😒 unamused 😓 sweat 😔 pensive 😕 confused 😖 confounded 😗 kissing",
   "😘 kissing_heart 😙 kissing_smiling_eyes 😚 kissing_closed_eyes 😛 stuck_out_tongue",
   "😜 stuck_out_tongue_winking_eye 😝 stuck_out_tongue_closed_eyes 😞 disappointed 😟 worried",
   "😠 angry 😡 rage 😢 cry 😣 persevere 😤 triumph 😥 disappointed_relieved 😦 frowning 😧 anguished",
   "😨 fearful 😩 weary 😪 sleepy 😫 tired_face 😬 grimacing 😭 sob 😮 open_mouth 😯 hushed",
   "😰 cold_sweat 😱 scream 😲 astonished 😳 flushed 😴 sleeping 😵 dizzy_face 😶 no_mouth 😷 mask",
   "😸 smile_cat 😹 joy_cat 😺 smiley_cat 😻 heart_eyes_cat 😼 smirk_cat 😽 kissing_cat",
   "😾 pouting_cat 😿 crying_cat_face 🙀 scream_cat 🙁 slightly_frowning_face",
   "🙂 slightly_smiling_face 🙃 upside_down_face 🙄 roll_eyes 🙅 no_good 🙆 ok_person 🙇 bow",
   "🙈 see_no_evil 🙉 hear_no_evil 🙊 speak_no_evil 🙋 raising_hand 🙌 raised_hands",
   "🙍 frowning_person 🙎 pouting_face 🙏 pray 🚀 rocket 🚁 helicopter 🚂 steam_locomotive",
   "🚃 railway_car 🚄 bullettrain_side 🚅 bullettrain_front 🚆 train2 🚇 metro 🚈 light_rail",
   "🚉 station 🚊 tram 🚋 train 🚌 bus 🚍 oncoming_bus 🚎 trolleybus 🚏 busstop 🚐 minibus 🚑 ambulance",
   "🚒 fire_engine 🚓 police_car 🚔 oncoming_police_car 🚕 taxi 🚖 oncoming_taxi 🚗 car",
   "🚘 oncoming_automobile 🚙 blue_car 🚚 truck 🚛 articulated_lorry 🚜 tractor 🚝 monorail",
   "🚞 mountain_railway 🚟 suspension_railway 🚠 mountain_cableway 🚡 aerial_tramway 🚢 ship",
   "🚣 rowboat 🚤 speedboat 🚥 traffic_light 🚦 vertical_traffic_light 🚧 construction",
   "🚨 rotating_light 🚩 triangular_flag_on_post 🚪 door 🚫 no_entry_sign 🚬 smoking 🚭 no_smoking",
   "🚮 put_litter_in_its_place 🚯 do_not_litter 🚰 potable_water 🚱 non-potable_water 🚲 bike",
   "🚳 no_bicycles 🚴 bicyclist 🚵 mountain_bicyclist 🚶 walking 🚷 no_pedestrians",
   "🚸 children_crossing 🚹 mens 🚺 womens 🚻 restroom 🚼 baby_symbol 🚽 toilet 🚾 wc 🚿 shower 🛀 bath",
   "🛁 bathtub 🛂 passport_control 🛃 customs 🛄 baggage_claim 🛅 left_luggage 🛋 couch_and_lamp",
   "🛌 sleeping_bed 🛍 shopping 🛎 bellhop_bell 🛏 bed 🛐 place_of_worship 🛑 stop_sign",
   "🛒 shopping_cart 🛕 hindu_temple 🛖 hut 🛗 elevator 🛜 wireless 🛝 playground_slide 🛞 wheel",
   "🛟 ring_buoy 🛠 hammer_and_wrench 🛡 shield 🛢 oil_drum 🛣 motorway 🛤 railway_track",
   "🛥 motor_boat 🛩 small_airplane 🛫 flight_departure 🛬 flight_arrival 🛰 artificial_satellite",
   "🛳 passenger_ship 🛴 kick_scooter 🛵 motor_scooter 🛶 canoe 🛷 sled 🛸 flying_saucer",
   "🛹 skateboard 🛺 auto_rickshaw 🛻 pickup_truck 🛼 roller_skate 🟠 orange_circle 🟡 yellow_circle",
   "🟢 green_circle 🟣 purple_circle 🟤 brown_circle 🟥 red_square 🟦 blue_square 🟧 orange_square",
   "🟨 yellow_square 🟩 green_square 🟪 purple_square 🟫 brown_square 🟰 heavy_equals_sign",
   "🤌 pinched_fingers 🤍 white_heart 🤎 brown_heart 🤏 pinching_hand 🤐 zipper_mouth_face",
   "🤑 money_mouth_face 🤒 face_with_thermometer 🤓 nerd_face 🤔 thinking 🤕 face_with_head_bandage",
   "🤖 robot 🤗 hugs 🤘 metal 🤙 call_me_hand 🤚 raised_back_of_hand 🤛 fist_left 🤜 fist_right",
   "🤝 handshake 🤞 crossed_fingers 🤟 love_you_gesture 🤠 cowboy_hat_face 🤡 clown_face",
   "🤢 nauseated_face 🤣 rofl 🤤 drooling_face 🤥 lying_face 🤦 facepalm 🤧 sneezing_face",
   "🤨 raised_eyebrow 🤩 star_struck 🤪 zany_face 🤫 shushing_face 🤬 cursing_face",
   "🤭 hand_over_mouth 🤮 vomiting_face 🤯 exploding_head 🤰 pregnant_woman 🤱 breast_feeding",
   "🤲 palms_up_together 🤳 selfie 🤴 prince 🤵 person_in_tuxedo 🤶 mrs_claus 🤷 shrug",
   "🤸 cartwheeling 🤹 juggling_person 🤺 person_fencing 🤼 wrestling 🤽 water_polo",
   "🤾 handball_person 🤿 diving_mask 🥀 wilted_flower 🥁 drum 🥂 clinking_glasses 🥃 tumbler_glass",
   "🥄 spoon 🥅 goal_net 🥇 1st_place_medal 🥈 2nd_place_medal 🥉 3rd_place_medal 🥊 boxing_glove",
   "🥋 martial_arts_uniform 🥌 curling_stone 🥍 lacrosse 🥎 softball 🥏 flying_disc 🥐 croissant",
   "🥑 avocado 🥒 cucumber 🥓 bacon 🥔 potato 🥕 carrot 🥖 baguette_bread 🥗 green_salad",
   "🥘 shallow_pan_of_food 🥙 stuffed_flatbread 🥚 egg 🥛 milk_glass 🥜 peanuts 🥝 kiwi_fruit",
   "🥞 pancakes 🥟 dumpling 🥠 fortune_cookie 🥡 takeout_box 🥢 chopsticks 🥣 bowl_with_spoon",
   "🥤 cup_with_straw 🥥 coconut 🥦 broccoli 🥧 pie 🥨 pretzel 🥩 cut_of_meat 🥪 sandwich",
   "🥫 canned_food 🥬 leafy_green 🥭 mango 🥮 moon_cake 🥯 bagel 🥰 smiling_face_with_three_hearts",
   "🥱 yawning_face 🥲 smiling_face_with_tear 🥳 partying_face 🥴 woozy_face 🥵 hot_face",
   "🥶 cold_face 🥷 ninja 🥸 disguised_face 🥹 face_holding_back_tears 🥺 pleading_face 🥻 sari",
   "🥼 lab_coat 🥽 goggles 🥾 hiking_boot 🥿 flat_shoe 🦀 crab 🦁 lion 🦂 scorpion 🦃 turkey 🦄 unicorn",
   "🦅 eagle 🦆 duck 🦇 bat 🦈 shark 🦉 owl 🦊 fox_face 🦋 butterfly 🦌 deer 🦍 gorilla 🦎 lizard",
   "🦏 rhinoceros 🦐 shrimp 🦑 squid 🦒 giraffe 🦓 zebra 🦔 hedgehog 🦕 sauropod 🦖 t-rex 🦗 cricket",
   "🦘 kangaroo 🦙 llama 🦚 peacock 🦛 hippopotamus 🦜 parrot 🦝 raccoon 🦞 lobster 🦟 mosquito",
   "🦠 microbe 🦡 badger 🦢 swan 🦣 mammoth 🦤 dodo 🦥 sloth 🦦 otter 🦧 orangutan 🦨 skunk 🦩 flamingo",
   "🦪 oyster 🦫 beaver 🦬 bison 🦭 seal 🦮 guide_dog 🦯 probing_cane 🦴 bone 🦵 leg 🦶 foot 🦷 tooth",
   "🦸 superhero 🦹 supervillain 🦺 safety_vest 🦻 ear_with_hearing_aid 🦼 motorized_wheelchair",
   "🦽 manual_wheelchair 🦾 mechanical_arm 🦿 mechanical_leg 🧀 cheese 🧁 cupcake 🧂 salt",
   "🧃 beverage_box 🧄 garlic 🧅 onion 🧆 falafel 🧇 waffle 🧈 butter 🧉 mate 🧊 ice_cube 🧋 bubble_tea",
   "🧌 troll 🧍 standing_person 🧎 kneeling_person 🧏 deaf_person 🧐 monocle_face 🧑 adult 🧒 child",
   "🧓 older_adult 🧔 bearded_person 🧕 woman_with_headscarf 🧖 sauna_person 🧗 climbing",
   "🧘 lotus_position 🧙 mage 🧚 fairy 🧛 vampire 🧜 merperson 🧝 elf 🧞 genie 🧟 zombie 🧠 brain",
   "🧡 orange_heart 🧢 billed_cap 🧣 scarf 🧤 gloves 🧥 coat 🧦 socks 🧧 red_envelope 🧨 firecracker",
   "🧩 jigsaw 🧪 test_tube 🧫 petri_dish 🧬 dna 🧭 compass 🧮 abacus 🧯 fire_extinguisher 🧰 toolbox",
   "🧱 bricks 🧲 magnet 🧳 luggage 🧴 lotion_bottle 🧵 thread 🧶 yarn 🧷 safety_pin 🧸 teddy_bear",
   "🧹 broom 🧺 basket 🧻 roll_of_paper 🧼 soap 🧽 sponge 🧾 receipt 🧿 nazar_amulet 🩰 ballet_shoes",
   "🩱 one_piece_swimsuit 🩲 swim_brief 🩳 shorts 🩴 thong_sandal 🩵 light_blue_heart 🩶 grey_heart",
   "🩷 pink_heart 🩸 drop_of_blood 🩹 adhesive_bandage 🩺 stethoscope 🩻 x_ray 🩼 crutch 🪀 yo_yo",
   "🪁 kite 🪂 parachute 🪃 boomerang 🪄 magic_wand 🪅 pinata 🪆 nesting_dolls 🪇 maracas 🪈 flute",
   "🪐 ringed_planet 🪑 chair 🪒 razor 🪓 axe 🪔 diya_lamp 🪕 banjo 🪖 military_helmet 🪗 accordion",
   "🪘 long_drum 🪙 coin 🪚 carpentry_saw 🪛 screwdriver 🪜 ladder 🪝 hook 🪞 mirror 🪟 window",
   "🪠 plunger 🪡 sewing_needle 🪢 knot 🪣 bucket 🪤 mouse_trap 🪥 toothbrush 🪦 headstone 🪧 placard",
   "🪨 rock 🪩 mirror_ball 🪪 identification_card 🪫 low_battery 🪬 hamsa 🪭 folding_hand_fan",
   "🪮 hair_pick 🪯 khanda 🪰 fly 🪱 worm 🪲 beetle 🪳 cockroach 🪴 potted_plant 🪵 wood 🪶 feather",
   "🪷 lotus 🪸 coral 🪹 empty_nest 🪺 nest_with_eggs 🪻 hyacinth 🪼 jellyfish 🪽 wing 🪿 goose",
   "🫀 anatomical_heart 🫁 lungs 🫂 people_hugging 🫃 pregnant_man 🫄 pregnant_person",
   "🫅 person_with_crown 🫎 moose 🫏 donkey 🫐 blueberries 🫑 bell_pepper 🫒 olive 🫓 flatbread",
   "🫔 tamale 🫕 fondue 🫖 teapot 🫗 pouring_liquid 🫘 beans 🫙 jar 🫚 ginger_root 🫛 pea_pod",
   "🫠 melting_face 🫡 saluting_face 🫢 face_with_open_eyes_and_hand_over_mouth",
   "🫣 face_with_peeking_eye 🫤 face_with_diagonal_mouth 🫥 dotted_line_face 🫦 biting_lip",
   "🫧 bubbles 🫨 shaking_face 🫰 hand_with_index_finger_and_thumb_crossed 🫱 rightwards_hand",
   "🫲 leftwards_hand 🫳 palm_down_hand 🫴 palm_up_hand 🫵 index_pointing_at_the_viewer",
   "🫶 heart_hands 🫷 leftwards_pushing_hand 🫸 rightwards_pushing_hand"]

/-- Pairs of words that follow each other. -/
def pairWords : List String → List (String × String)
  | sign :: name :: rest => (sign, name) :: pairWords rest
  | _ => []

def pictographs : List (String × String) :=
  pairWords (pictographText.flatMap (·.splitOn " "))

/-- The name of a pictograph, followed by a blank. -/
def pictograph? (c : Char) : Option String :=
  (pictographs.lookup (String.singleton c)).map (· ++ " ")

end TaggedPage.Transliteration
